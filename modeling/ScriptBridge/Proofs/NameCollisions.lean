import Mathlib.Algebra.BigOperators.Fin
import Mathlib.Tactic.Ring
import ScriptBridge.NameHash

/-! Hashes of names as numbers, and the names that share one. The bytes of a name are the digits of a number to the base
33, behind a first digit that all names have, and a word keeps the remainder of this number. As 33 has an inverse among
words, no byte lets two hashes meet: names with a common ending have one hash exactly if they have one without it. -/
namespace ScriptBridge

def nameBytes (name : String) : List UInt8 := name.toUTF8.data.toList

/-- The number that has bytes for its digits to the base 33, behind a first digit. A digit may exceed the base. -/
def radixValue (first : Nat) (bytes : List UInt8) : Nat :=
  first * 33 ^ bytes.length + ∑ i : Fin bytes.length, bytes[i].toNat * 33 ^ (bytes.length - (i.val + 1))

/-- A byte enters a hash by a shift, which drops the foremost bits, and two additions that wrap around. -/
def shiftIn (h : UInt32) (b : UInt8) : UInt32 := (h <<< 5) + h + b.toUInt32

def hashFrom (h : UInt32) (bytes : List UInt8) : UInt32 := bytes.foldl shiftIn h

section Bytes

private theorem shiftIn_eq (h : UInt32) (b : UInt8) : shiftIn h b = h * 33 + b.toUInt32 := by
  have shifted : h <<< 5 = h * 32 := by
    apply UInt32.toNat.inj
    rw [UInt32.toNat_shiftLeft, UInt32.toNat_mul, Nat.shiftLeft_eq]
    rfl
  calc
    (h <<< 5) + h + b.toUInt32 = h * 32 + h * 1 + b.toUInt32 := by rw [shifted, UInt32.mul_one]
    _ = h * 33 + b.toUInt32 := by
      rw [← UInt32.mul_add]
      rfl

/-- No byte takes two hashes to one. -/
theorem shiftIn_injective (b : UInt8) : Function.Injective (shiftIn · b) := by
  intro h h' same
  have product : h * 33 = h' * 33 := by
    rw [← UInt32.add_left_inj b.toUInt32, ← shiftIn_eq, ← shiftIn_eq]
    exact same
  -- 1041204193 is the inverse of 33 among words.
  have inverse (x : UInt32) : x * 33 * 1041204193 = x := by
    rw [UInt32.mul_assoc]
    exact UInt32.mul_one x
  rw [← inverse h, product, inverse]

private theorem hashFrom_injective (bytes : List UInt8) : Function.Injective (hashFrom · bytes) := by
  induction bytes with
  | nil => exact Function.injective_id
  | cons b bytes ih => exact ih.comp (shiftIn_injective b)

/-- A byte moves into the digits from behind. -/
theorem radixValue_cons (first : Nat) (b : UInt8) (bytes : List UInt8) :
    radixValue first (b :: bytes) = radixValue (first * 33 + b.toNat) bytes := by
  -- The foremost place goes to the new byte, and each other byte keeps the power of its place.
  have digits : ∑ i : Fin (b :: bytes).length, (b :: bytes)[i].toNat * 33 ^ ((b :: bytes).length - (i.val + 1)) =
      b.toNat * 33 ^ bytes.length + ∑ i : Fin bytes.length, bytes[i].toNat * 33 ^ (bytes.length - (i.val + 1)) := by
    refine (Fin.sum_univ_succ _).trans (congrArg _ (Finset.sum_congr rfl fun i _ => ?_))
    exact congrArg (bytes[i].toNat * 33 ^ ·) (Nat.add_sub_add_right ..)
  rw [radixValue, digits, List.length_cons, radixValue]
  ring

/-- Wrapping around at every byte comes to wrapping around once. -/
theorem hashFrom_ofNat (first : Nat) (bytes : List UInt8) :
    hashFrom (.ofNat first) bytes = .ofNat (radixValue first bytes) := by
  induction bytes generalizing first with
  | nil => exact congrArg UInt32.ofNat (Nat.mul_one first).symm
  | cons b bytes ih =>
    have byte : shiftIn (.ofNat first) b = .ofNat (first * 33 + b.toNat) := by
      rw [shiftIn_eq, UInt32.ofNat_add, UInt32.ofNat_mul, UInt32.ofNat_uInt8ToNat]
      rfl
    calc
      hashFrom (.ofNat first) (b :: bytes) = hashFrom (shiftIn (.ofNat first) b) bytes := rfl
      _ = .ofNat (radixValue (first * 33 + b.toNat) bytes) := by rw [byte, ih]
      _ = .ofNat (radixValue first (b :: bytes)) := by rw [radixValue_cons]

end Bytes

section Names
variable {s t : String}

private theorem nameBytes_append (s t : String) : nameBytes (s ++ t) = nameBytes s ++ nameBytes t := by
  rw [nameBytes, String.toUTF8_eq_toByteArray, String.toByteArray_append, ByteArray.toList_data_append]
  rfl

private theorem nameHash_eq_hashFrom (hs : s ≠ "") : nameHash s = hashFrom 5381 (nameBytes s) := by
  have step : shiftIn = fun h b => h * 33 + b.toUInt32 := funext₂ shiftIn_eq
  rw [nameHash, if_neg hs, hashFrom, step]
  rfl

/-- The hash of a name leads on to that of every longer one. The empty name is left out: its hash is not the one that
the bytes of a name start from. -/
theorem nameHash_append (hs : s ≠ "") (u : String) : nameHash (s ++ u) = hashFrom (nameHash s) (nameBytes u) := by
  have hsu : s ++ u ≠ "" := fun h => hs (String.append_eq_empty_iff.mp h).1
  rw [nameHash_eq_hashFrom hsu, nameHash_eq_hashFrom hs, nameBytes_append]
  exact List.foldl_append

private theorem nameHash_append_inj (hs : s ≠ "") (ht : t ≠ "") (u : String) :
    nameHash (s ++ u) = nameHash (t ++ u) ↔ nameHash s = nameHash t := by
  rw [nameHash_append hs, nameHash_append ht]
  exact (hashFrom_injective _).eq_iff

end Names

/-- The bytes of a name that is not empty enter its hash one after another, and the hash is the remainder of the number
that they are the digits of. Two such names, and the keys that they stand in, collide with a common ending exactly if
they collide without it. -/
theorem names_hash_to_remainders :
    (∀ name ≠ "", nameHash name = (nameBytes name).foldl shiftIn 5381 ∧
      (nameHash name).toNat = radixValue 5381 (nameBytes name) % 2 ^ 32) ∧
    ∀ s ≠ "", ∀ t ≠ "", ∀ u, (nameHash (s ++ u) = nameHash (t ++ u) ↔ nameHash s = nameHash t) ∧
      ∀ scope scope', EntryKey.ofNames scope (s ++ u) = .ofNames scope' (t ++ u) ↔
        EntryKey.ofNames scope s = .ofNames scope' t := by
  refine ⟨fun name hn => ?_, fun s hs t ht u => ⟨nameHash_append_inj hs ht u, fun scope scope' => ?_⟩⟩
  · have once : nameHash name = .ofNat (radixValue 5381 (nameBytes name)) :=
      (nameHash_eq_hashFrom hn).trans (hashFrom_ofNat 5381 _)
    refine ⟨nameHash_eq_hashFrom hn, ?_⟩
    rw [once, UInt32.toNat_ofNat']
  · simp only [EntryKey.ofNames, EntryKey.mk.injEq, nameHash_append_inj hs ht]

/-- The digits of the first name leave nothing over, the next two names collide, and the last two do not. -/
theorem names_hash_to_remainders_az :
    radixValue 5381 (nameBytes "tvhuvks") % 2 ^ 32 = 0 ∧
      EntryKey.ofNames "Player" "Azimuth" = .ofNames "Player" "BYimuth" ∧ nameHash "AzÄ" ≠ nameHash "aZÄ" := by
  obtain ⟨value, endings⟩ := names_hash_to_remainders
  refine ⟨?_, ?_, ?_⟩
  · rw [← (value "tvhuvks" (by decide)).2]
    decide +kernel
  · exact ((endings "Az" (by decide) "BY" (by decide) "imuth").2 "Player" "Player").mpr (by decide +kernel)
  · exact mt (endings "Az" (by decide) "aZ" (by decide) "Ä").1.mp (by decide +kernel)

/-- The empty name has no part in this: it shares its hash with a name, but not those of its continuations. -/
example : nameHash "" = nameHash "tvhuvks" ∧ nameHash ("" ++ "a") ≠ nameHash ("tvhuvks" ++ "a") := by decide +kernel

end ScriptBridge
