import Mathlib.Data.Set.Function
import ScriptBridge.Proofs.Publication

/-! Look-ups by name. Entries stand under the hashes of their scopes and names, so names are told apart as far as their
hashes are: two names with one hash are one name to the registry. -/
namespace ScriptBridge.Builder
variable {P : Type}

def Request.Within (names : Set String) (r : Request P) : Prop :=
  ∀ scope name, r.label? = some (scope, name) → scope ∈ names ∧ name ∈ names

def Registers (config : BindConfig) (history : List (Operation P)) (scope name : String) : Prop :=
  ∃ before r after, history.flatMap Operation.requests = before ++ r :: after ∧ r.label? = some (scope, name) ∧
    (((new config).serveAll before).serve r).result = .ok (some (.ofNames scope name))

/-- Look-ups and registrations take names for each other only if they are `alike`, in what a history leads to and in the
request that follows. -/
structure Addressed (alike : String → String → Prop) (names : Set String) (config : BindConfig)
    (history : List (Operation P)) : Prop where
  /-- What was registered is found. -/
  reached : ∀ scope name, Registers config history scope name →
    (((new config).after history).build.findByName? scope name).isSome = true
  /-- An entry found by a scope and a name was registered with such a scope and such a name. -/
  byName : ∀ scope ∈ names, ∀ name ∈ names, ∀ e,
    ((new config).after history).build.findByName? scope name = some e →
      Registers config history e.scope e.name ∧ alike e.scope scope ∧ alike e.name name
  /-- A function found by the hash of its name has a scope like the global one. -/
  function : ∀ hash e, ((new config).after history).build.findFunction? hash = some e →
    Registers config history e.scope e.name ∧ alike e.scope "" ∧ nameHash e.name = hash
  /-- A registration conflicts only with an entry whose scope and name are like its own. -/
  conflict : ∀ r scope name, r.Within names → r.label? = some (scope, name) → ∀ scope' name',
    (((new config).after history).serve r).result = .error (.registrationConflict scope' name') →
      Registers config history scope' name' ∧ alike scope' scope ∧ alike name' name
  /-- It replaces no other entry either. -/
  replaced : ∀ r scope name, r.Within names → r.label? = some (scope, name) → ∀ key e,
    ((new config).after history).entries.find? key = some e →
    (((new config).after history).serve r).builder.entries.find? key ≠ some e →
      alike e.scope scope ∧ alike e.name name

/-- An entry stands under the hashes of the scope and the name that it was registered with. -/
theorem registered_under {config : BindConfig} {history : List (Operation P)} {key : EntryKey} {e : Entry P}
    (found : ((new config).after history).entries.find? key = some e) :
    Registers config history e.scope e.name ∧ nameHash e.scope = key.scope ∧ nameHash e.name = key.name := by
  obtain ⟨before, r, after, registered, hr, rfl, origin⟩ := origin found
  have hs : e.scope = registered.scope := (congrArg Entry.scope origin.same :)
  have hn : e.name = registered.name := (congrArg Entry.name origin.same :)
  rw [hs, hn]
  exact ⟨⟨before, r, after, hr, Request.label?_of_asked origin.fits.asked, origin.accepted⟩, rfl, rfl⟩

theorem Registers.reached {config : BindConfig} {history : List (Operation P)} {scope name : String}
    (h : Registers config history scope name) :
    (((new config).after history).build.findByName? scope name).isSome = true := by
  obtain ⟨before, r, after, hr, -, ok⟩ := h
  obtain ⟨entry, hm, hk⟩ := exists_publish_mem_accepts ok
  have logged : .publish entry ∈ changes config history := by
    rw [changes, hr]
    exact mem_accepted.mpr ⟨before, r, after, rfl, hm⟩
  refine ((ledger_after config history).found (.ofNames scope name)).mpr ?_
  exact List.mem_filterMap.mpr ⟨_, logged, congrArg some hk⟩

/-- A conflict is one with the entry that stands under the hashes of the same scope and name. -/
theorem conflict_eq {b : Builder P} {r : Request P} {scope name scope' name' : String}
    (label : r.label? = some (scope, name)) (h : (b.serve r).result = .error (.registrationConflict scope' name')) :
    ∃ e, b.entries.find? (.ofNames scope name) = some e ∧ e.scope = scope' ∧ e.name = name' := by
  have hs := b.served r
  generalize b.serve r = o at h hs
  cases hs with
  | unfit registers refused check =>
    obtain rfl := Except.error.inj h
    cases check
  | @conflict r entry existing fits taken policy =>
    obtain ⟨rfl, rfl⟩ := Prod.mk.inj (Option.some.inj (label.symm.trans (Request.label?_of_asked fits.asked)))
    obtain ⟨rfl, rfl⟩ := BindError.registrationConflict.inj (Except.error.inj h)
    exact ⟨existing, taken, rfl, rfl⟩
  | mapped | published => cases h
  | missing | documented | unsuited | attached => cases label

/-- A registration changes nothing but what stands under the hashes of its own scope and name. -/
theorem find?_serve_of_ne {b : Builder P} {r : Request P} {scope name : String} (label : r.label? = some (scope, name))
    {key : EntryKey} (hk : key ≠ .ofNames scope name) :
    (b.serve r).builder.entries.find? key = b.entries.find? key := by
  have hs := b.served r
  generalize b.serve r = o at hs ⊢
  cases hs with
  | @published r entry fits free =>
    obtain ⟨rfl, rfl⟩ := Prod.mk.inj (Option.some.inj (label.symm.trans (Request.label?_of_asked fits.asked)))
    exact (Directory.find?_insert ..).trans (if_neg hk)
  | mapped | attached => cases label
  | unfit | conflict | missing | documented | unsuited => rfl

/-- Names are taken for each other only if they have one hash. -/
theorem addressed_hash (config : BindConfig) (history : List (Operation P)) :
    Addressed (fun x y => nameHash x = nameHash y) Set.univ config history := by
  constructor
  · intro scope name registers
    exact registers.reached
  · intro scope _ name _ e found
    exact registered_under found
  · intro hash e found
    exact registered_under found
  · intro r scope name _ label scope' name' h
    obtain ⟨e, found, rfl, rfl⟩ := conflict_eq label h
    exact registered_under found
  · intro r scope name _ label key e found changed
    have hk : key = .ofNames scope name := by
      by_contra hk
      rw [find?_serve_of_ne label hk] at changed
      exact changed found
    rw [hk] at found
    exact (registered_under found).2

theorem Registers.mem {config : BindConfig} {history : List (Operation P)} {scope name : String} {names : Set String}
    (h : Registers config history scope name) (within : ∀ r ∈ history.flatMap Operation.requests, r.Within names) :
    scope ∈ names ∧ name ∈ names := by
  obtain ⟨before, r, after, hr, label, -⟩ := h
  have hm : r ∈ history.flatMap Operation.requests := by
    rw [hr]
    exact List.mem_append_right _ List.mem_cons_self
  exact within r hm scope name label

/-- Among names that no two of have one hash, names are taken for each other only if they are equal. -/
theorem addressed_eq {config : BindConfig} {history : List (Operation P)} {names : Set String} (global : "" ∈ names)
    (tells : Set.InjOn nameHash names) (within : ∀ r ∈ history.flatMap Operation.requests, r.Within names) :
    Addressed Eq names config history := by
  have hash := addressed_hash config history
  constructor
  · intro scope name registers
    exact registers.reached
  · intro scope hs name hn e found
    obtain ⟨registers, es, en⟩ := hash.byName scope trivial name trivial e found
    obtain ⟨ms, mn⟩ := registers.mem within
    exact ⟨registers, tells ms hs es, tells mn hn en⟩
  · intro h e found
    obtain ⟨registers, es, en⟩ := hash.function h e found
    exact ⟨registers, tells (registers.mem within).1 global es, en⟩
  · intro r scope name hr label scope' name' h
    obtain ⟨registers, es, en⟩ := hash.conflict r scope name (fun _ _ _ => ⟨trivial, trivial⟩) label scope' name' h
    obtain ⟨ms, mn⟩ := registers.mem within
    obtain ⟨hs, hn⟩ := hr scope name label
    exact ⟨registers, tells ms hs es, tells mn hn en⟩
  · intro r scope name hr label key e found changed
    obtain ⟨es, en⟩ := hash.replaced r scope name (fun _ _ _ => ⟨trivial, trivial⟩) label key e found changed
    obtain ⟨ms, mn⟩ := (registered_under found).1.mem within
    obtain ⟨hs, hn⟩ := hr scope name label
    exact ⟨tells ms hs es, tells mn hn en⟩

structure AddressedByHash (config : BindConfig) (history : List (Operation P)) : Prop where
  /-- Names with one hash are taken for each other, and no others. -/
  hashed : Addressed (fun x y => nameHash x = nameHash y) Set.univ config history
  /-- Where all names have different hashes, no two are taken for each other. -/
  exact : ∀ names : Set String, "" ∈ names → Set.InjOn nameHash names →
    (∀ r ∈ history.flatMap Operation.requests, r.Within names) → Addressed Eq names config history

/-- Every history of the registration phase addresses its entries by the hashes of their names. -/
theorem entries_addressed_by_hash (config : BindConfig) (history : List (Operation P)) :
    AddressedByHash config history := by
  constructor
  · exact addressed_hash config history
  · intro names global tells within
    exact addressed_eq global tells within

section Collisions

private def script (scope name : String) : Operation Unit := .declareScript scope name .void [] none

private def clashing : Builder Unit := (new .standard).after [script "" "Az", script "tvhuvks" "run"]

/-- Different names that are taken for each other. The first two have one hash, and that of the third is the one of the
global scope: a look-up finds an entry registered under another name, a registration conflicts with an entry of another
name, and an entry in a scope is found as a function. -/
theorem names_taken_for_each_other :
    (clashing.build.findByName? "" "BY").map (·.name) = some "Az" ∧
      (clashing.serve (.declareScript "" "BY" .void [] none)).result = .error (.registrationConflict "" "Az") ∧
      (clashing.build.findFunction? (nameHash "run")).map (·.scope) = some "tvhuvks" := by
  decide +kernel

private def apart : List (Operation Unit) := [script "Player" "Heal", script "Monster" "Heal"]

/-- The names of these methods have different hashes, and each method is found by its own scope. -/
theorem entries_addressed_by_hash_heal : Addressed Eq {"", "Player", "Monster", "Heal"} .standard apart ∧
    (((new .standard).after apart).build.findByName? "Monster" "Heal").map (·.scope) = some "Monster" := by
  refine ⟨(entries_addressed_by_hash .standard apart).exact _ (by simp) ?_ ?_, by decide +kernel⟩
  · have tells : ∀ x ∈ ["", "Player", "Monster", "Heal"], ∀ y ∈ ["", "Player", "Monster", "Heal"],
        nameHash x = nameHash y → x = y := by
      decide +kernel
    intro x hx y hy h
    exact tells x (by simpa using hx) y (by simpa using hy) h
  · intro r hr scope name label
    have hr : r = .declareScript "Player" "Heal" .void [] none ∨ r = .declareScript "Monster" "Heal" .void [] none := by
      simpa [apart, script, Operation.requests] using hr
    obtain rfl | rfl := hr <;> cases label <;> simp

end Collisions
end ScriptBridge.Builder
