import ScriptBridge.HostLibrary
import ScriptBridge.Proofs.CallOrder
import ScriptBridge.Session.Run

/-! The form in which arguments are passed does not matter. Every form counts what it hands over, and strings that are
only read convert like strings that are passed as values, so a call depends on the values alone. -/
namespace ScriptBridge

def HostArgument.value : HostArgument → SlotValue
  | .plain t _ a => t.box a
  | .text s | .ownedText s => .string s
  | .borrowed a => a.value

def ArgumentList.values : ArgumentList → List SlotValue
  | .tuple components _ _ => components.map HostArgument.value
  | .slice vs | .array vs => vs
  | .borrowed l => l.values

private theorem HostArgument.asValue_source (a : HostArgument) : a.source.asValue = a.value := by
  induction a with
  | borrowed a ih => exact ih
  | _ => rfl

section Conversion
variable {live : ObjectId → Bool} {as bs : List Argument} {ks : List Kind}

private theorem conversions_eq (live : ObjectId → Bool) (as : List Argument) (ks : List Kind) :
    conversions live as ks = (as.map Argument.asValue).zipWith (Conversion.convert? live) ks := by
  have converts : (Argument.convert? live) = fun a => Conversion.convert? live a.asValue := by
    funext a k
    exact Argument.convert?_eq live a k
  rw [conversions, converts, List.zipWith_map_left]

/-- What is made of arguments follows from what each of them converts to. -/
theorem convertArguments_congr (f : String) (p : Nat) (h : conversions live as ks = conversions live bs ks) :
    convertArguments live f p as ks = convertArguments live f p bs ks := by
  obtain ⟨vs, converted, hv⟩ | ⟨i, refused, bad, least⟩ := convertArguments_spec live f p bs ks
  · rw [converted, convertArguments_of_conversions f p (h.trans hv)]
  · rw [← h] at bad least
    rw [refused, convertArguments_of_least f p bad least]

end Conversion

section Forms

private theorem tupleForms_getElem? : ∀ n < 13, tupleForms[n]? = some ⟨n, List.range n⟩ := by decide

/-- There are tuples of up to twelve components, and each counts and hands over all of them in order. -/
theorem tupleForms_eq_some_iff {n : Nat} {form : TupleForm} :
    tupleForms[n]? = some form ↔ n ≤ 12 ∧ form = ⟨n, List.range n⟩ := by
  constructor
  · intro h
    have hn : n < 13 := (List.getElem?_eq_some_iff.mp h).1
    rw [tupleForms_getElem? n hn] at h
    exact ⟨Nat.le_of_lt_succ hn, (Option.some.inj h).symm⟩
  · rintro ⟨hn, rfl⟩
    exact tupleForms_getElem? n (Nat.lt_succ_of_le hn)

private theorem filterMap_range_getElem? {α : Type} (xs : List α) (n : Nat) :
    ((List.range n).filterMap fun i => xs[i]?) = xs.take n := by
  induction n with
  | zero => rfl
  | succ n ih =>
    rw [List.range_succ, List.filterMap_append, ih, List.take_add_one]
    cases h : xs[n]? <;> simp [h]

namespace ArgumentList

private theorem isSome_ofTuple?_iff (components : List HostArgument) :
    (ofTuple? components).isSome ↔ components.length ≤ 12 := by
  unfold ofTuple?
  split
  · rename_i form h
    exact ⟨fun _ => (tupleForms_eq_some_iff.mp h).1, fun _ => rfl⟩
  · rename_i h
    refine ⟨nofun, fun hle => ?_⟩
    rw [tupleForms_eq_some_iff.mpr ⟨hle, rfl⟩] at h
    cases h

private theorem sources_tuple {components : List HostArgument} {form : TupleForm}
    (sized : tupleForms[components.length]? = some form) :
    (tuple components form sized).sources = components.map HostArgument.source := by
  obtain ⟨-, rfl⟩ := tupleForms_eq_some_iff.mp sized
  rw [sources, ← List.map_filterMap, filterMap_range_getElem?, List.take_length]

private theorem map_asValue_sources (l : ArgumentList) : l.sources.map Argument.asValue = l.values := by
  induction l with
  | tuple components form sized =>
    rw [sources_tuple, List.map_map]
    exact List.map_congr_left fun a _ => a.asValue_source
  | slice vs => exact (List.map_map ..).trans (List.map_id vs)
  | array vs => exact (List.map_map ..).trans (List.map_id vs)
  | borrowed l ih => exact ih

/-- Every form counts as many arguments as it hands over. -/
theorem count_eq_length_sources (l : ArgumentList) : l.count = l.sources.length := by
  induction l with
  | tuple components form sized =>
    rw [sources_tuple, List.length_map]
    exact congrArg TupleForm.count (tupleForms_eq_some_iff.mp sized).2
  | slice vs => exact (List.length_map ..).symm
  | array vs => exact (List.length_map ..).symm
  | borrowed l ih => exact ih

end ArgumentList

end Forms

namespace Caller
variable {P H : Type}

/-- The checks of a call see the number of arguments and their values. -/
theorem prepareSupplied_congr (c : Caller P H) (w : World P H) (target : CallTarget) {s s' : Supply} (result : HostType)
    (counted : s.count = s'.count) (values : s.arguments.map Argument.asValue = s'.arguments.map Argument.asValue) :
    c.prepareSupplied w target s result = c.prepareSupplied w target s' result := by
  obtain ⟨n, as⟩ := s
  obtain ⟨_, bs⟩ := s'
  obtain rfl : n = _ := counted
  have converted (f : String) (ks : List Kind) : convertArguments (c.objects.isLive w.objects w.host) f 1 as ks =
      convertArguments (c.objects.isLive w.objects w.host) f 1 bs ks :=
    convertArguments_congr f 1 (by rw [conversions_eq, conversions_eq, values])
  simp only [prepareSupplied, converted]

/-- To hand over arguments is to pass the list of what is handed over. -/
theorem call_sources (c : Caller P H) (target : CallTarget) (l : ArgumentList) (result : HostType) (w : World P H) :
    c.call target l.sources result w = c.callSupplied target l.supply result w := by
  rw [ArgumentList.supply, l.count_eq_length_sources]
  rfl

/-- A call with arguments in any form is the call with the list of their values. -/
theorem callSupplied_eq (c : Caller P H) (target : CallTarget) (l : ArgumentList) (result : HostType) (w : World P H) :
    c.callSupplied target l.supply result w = c.call target (l.values.map .value) result w := by
  have values : l.sources.map Argument.asValue = (l.values.map Argument.value).map Argument.asValue := by
    rw [l.map_asValue_sources, List.map_map]
    exact (List.map_id _).symm
  have counted : l.sources.length = (l.values.map Argument.value).length := by
    simpa only [List.length_map] using congrArg List.length values
  have prepared : c.prepare w target l.sources result = c.prepare w target (l.values.map .value) result :=
    c.prepareSupplied_congr w target result counted values
  rw [← call_sources, call, call, attempt, attempt, prepared]

/-- Tuples of up to twelve arguments, slices and arrays of slot values, and references to all of them count what they
hand over. Whichever of them carries given values, with strings read in place or passed as values, the call answers the
same and leaves the same state behind: slots, objects and reported diagnostics. -/
theorem argument_forms_agree :
    (∀ components, (ArgumentList.ofTuple? components).isSome ↔ components.length ≤ 12) ∧
      (∀ l : ArgumentList, l.count = l.sources.length ∧ l.sources.map Argument.asValue = l.values) ∧
      ∀ l l' : ArgumentList, l.values = l'.values →
        ∀ (c : Caller P H) (target : CallTarget) (result : HostType) (w : World P H),
          c.callSupplied target l.supply result w = c.callSupplied target l'.supply result w := by
  refine ⟨ArgumentList.isSome_ofTuple?_iff, fun l => ⟨l.count_eq_length_sources, l.map_asValue_sources⟩, ?_⟩
  intro l l' same c target result w
  rw [callSupplied_eq, callSupplied_eq, same]

section Instance

private def summing : World Empty Unit :=
  .fresh ((Builder.new .standard).after [.register (.function "Sum" (HostLibrary.sum 2))]).build ()

private def inTuple : ArgumentList := .tuple [.text "12", .borrowed (.ownedText "30")] ⟨2, [0, 1]⟩ rfl

private def inArray : ArgumentList := .borrowed (.array [.string "12", .string "30"])

/-- Two numbers as texts in a tuple and as strings in an array come to the same sum. -/
theorem argument_forms_agree_sum :
    inTuple.values = inArray.values ∧
      ((ofRunner fun p => p.elim).callSupplied (.ofName "Sum") inTuple.supply .int summing).1 = .ok (42 : Int32) ∧
      (ofRunner fun p => p.elim).callSupplied (.ofName "Sum") inTuple.supply .int summing =
        (ofRunner fun p => p.elim).callSupplied (.ofName "Sum") inArray.supply .int summing :=
  ⟨rfl, by decide +kernel, argument_forms_agree.2.2 inTuple inArray rfl _ _ _ summing⟩

end Instance

end Caller

end ScriptBridge
