import ScriptBridge.HostLibrary
import ScriptBridge.Proofs.EntryLayout

/-! The kinds of native types, in the slots of published entries and in the registry itself. A slot keeps the kind that its
type had when the entry was registered, while the registry has the kind that the type was mapped to last. -/
namespace ScriptBridge

/-- A type has the kind that it was mapped to last. -/
theorem KindMap.kindOf_register (m : KindMap) (t : HostType) (k : Kind) (u : HostType) :
    (m.register t k).kindOf u = if u = t then k else m.kindOf u := by
  cases registered : k.isRegistered with
  | true =>
    simp only [register, kindOf, registered, if_true, Directory.lookup_cons_eq, Directory.lookup_filter_ne]
    by_cases h : u = t <;> simp [h]
  | false =>
    -- no other kind is unregistered, so a type without a mapping has this one too
    have sentinel : k = .unregistered := by cases k <;> first | rfl | cases registered
    simp only [register, kindOf, registered, Bool.false_eq_true, if_false, Directory.lookup_filter_ne]
    by_cases h : u = t <;> simp [h, sentinel]

namespace Builder
variable {P : Type}

def Request.mapping? (t : HostType) : Request P → Option Kind
  | .mapKind u k => if u = t then some k else none
  | .register _ | .declareScript .. | .attachDefaults .. => none

def lastMapping? (t : HostType) (requests : List (Request P)) : Option Kind :=
  (requests.filterMap (Request.mapping? t)).getLast?

private theorem kindOf_serve (b : Builder P) (r : Request P) (t : HostType) :
    (b.serve r).builder.kinds.kindOf t = (r.mapping? t).getD (b.kinds.kindOf t) := by
  cases r with
  | mapKind u k =>
    refine (b.kinds.kindOf_register u k t).trans ?_
    rw [Request.mapping?]
    by_cases h : t = u
    · simp [h]
    · simp [h, Ne.symm h]
  | register | declareScript | attachDefaults =>
    rw [serve_kinds (by intro t k h; cases h)]
    rfl

/-- After a row of requests a type has the kind of its last mapping, or the one that it had before. -/
theorem kindOf_serveAll (b : Builder P) (requests : List (Request P)) (t : HostType) :
    (b.serveAll requests).kinds.kindOf t = (lastMapping? t requests).getD (b.kinds.kindOf t) := by
  induction requests generalizing b with
  | nil => rfl
  | cons r rest ih =>
    refine (ih (b.serve r).builder).trans ?_
    rw [kindOf_serve, lastMapping?, lastMapping?]
    cases hm : r.mapping? t with
    | none => rw [List.filterMap_cons_none hm, Option.getD_none]
    | some k =>
      rw [List.filterMap_cons_some hm, List.getLast?_cons, Option.getD_some]
      cases (rest.filterMap (Request.mapping? t)).getLast? <;> rfl

/-- Where a type is not mapped, there is no last mapping of it. -/
theorem lastMapping?_eq_none {t : HostType} {requests : List (Request P)} (h : ∀ k, .mapKind t k ∉ requests) :
    lastMapping? t requests = none := by
  rw [lastMapping?, List.getLast?_eq_none_iff, List.filterMap_eq_nil_iff]
  intro r hr
  cases r with
  | mapKind u k =>
    rw [Request.mapping?, if_neg]
    rintro rfl
    exact h k hr
  | register | declareScript | attachDefaults => rfl

/-- Each slot of a native entry has a native type, and the kind that this type had. -/
theorem Native.kind_of_mem {kinds : KindMap} {binding : Binding P} {e : Entry P} (native : Native kinds binding e)
    {s : Slot} (hs : s ∈ e.table.slots) : ∃ t, s.hostType = some t ∧ s.kind = kinds.kindOf t := by
  obtain ⟨i, hi⟩ := List.mem_iff_getElem?.mp hs
  cases i with
  | zero =>
    obtain rfl := Option.some.inj (hi.symm.trans native.result)
    exact ⟨binding.returnType, rfl, rfl⟩
  | succ i =>
    have bound : i < binding.params.length := by
      rw [← native.length]
      exact Nat.lt_of_succ_lt_succ (List.getElem?_eq_some_iff.mp hi).1
    have slot := native.params i _ (List.getElem?_eq_getElem bound)
    obtain rfl := Option.some.inj (hi.symm.trans slot)
    exact ⟨binding.params[i], rfl, rfl⟩

/-- The registration that a native entry comes from, with the requests before and after it. It is the last one that was
accepted under the key. -/
structure RegisteredBy (config : BindConfig) (key : EntryKey) (before : List (Request P)) (binding : Binding P)
    (after : List (Request P)) : Prop where
  accepted : (((new config).serveAll before).serve (.register binding)).result = .ok (some key)
  last : key ∉ publishedKeys (((new config).serveAll (before ++ [.register binding])).accepted after)

/-- A slot of a native type keeps the kind that the type had, and the type has it too unless it was mapped to another one
since then. -/
structure Follows (earlier now : KindMap) (since : List (Request P)) (t : HostType) (s : Slot) : Prop where
  hostType : s.hostType = some t
  declared : s.kind = earlier.kindOf t
  remapped : now.kindOf t = (lastMapping? t since).getD s.kind
  agrees : now.kindOf t = s.kind ↔ ∀ k, lastMapping? t since = some k → k = s.kind

theorem Follows.serveAll {b : Builder P} {t : HostType} {s : Slot} (hostType : s.hostType = some t)
    (declared : s.kind = b.kinds.kindOf t) (since : List (Request P)) :
    Follows b.kinds (b.serveAll since).kinds since t s := by
  have remapped := b.kindOf_serveAll since t
  rw [← declared] at remapped
  refine ⟨hostType, declared, remapped, ?_⟩
  rw [remapped]
  cases lastMapping? t since <;> simp

structure KindsAgree (config : BindConfig) (history : List (Operation P)) : Prop where
  /-- The slots of an entry have the kinds of its registration, which the registry has too unless a type was mapped to
  another kind since then. -/
  entries : ∀ key e adapter, ((new config).after history).build.find? key = some e → e.behaviour = .native adapter →
    ∃ before binding after, history.flatMap Operation.requests = before ++ .register binding :: after ∧
      RegisteredBy config key before binding after ∧ ∀ s ∈ e.table.slots, ∃ t,
        Follows ((new config).serveAll before).kinds ((new config).after history).build.kinds after t s
  /-- Where every mapping is made before registration starts, the registry agrees with all its native entries. -/
  early : ∀ mappings rest, history.flatMap Operation.requests = mappings ++ rest → (∀ r ∈ mappings, r.label? = none) →
    (∀ t k, .mapKind t k ∉ rest) → ∀ key e adapter, ((new config).after history).build.find? key = some e →
      e.behaviour = .native adapter → ∀ s ∈ e.table.slots, ∃ t, s.hostType = some t ∧
        ((new config).after history).build.kinds.kindOf t = s.kind

/-- Every native entry was registered at some point of the history, with the kinds that its types had then. -/
theorem registeredBy {config : BindConfig} {history : List (Operation P)} {key : EntryKey} {e : Entry P}
    {adapter : Adapter P} (found : ((new config).after history).build.find? key = some e)
    (native : e.behaviour = .native adapter) :
    ∃ before binding after, history.flatMap Operation.requests = before ++ .register binding :: after ∧
      RegisteredBy config key before binding after ∧ ∀ s ∈ e.table.slots, ∃ t,
        Follows ((new config).serveAll before).kinds ((new config).after history).build.kinds after t s := by
  obtain ⟨before, r, after, registered, hr, rfl, origin, last⟩ := last_origin found
  have behaviour : e.behaviour = registered.behaviour := (congrArg Entry.behaviour origin.same :)
  have table : e.table = registered.table := (congrArg Entry.table origin.same :)
  obtain ⟨-, ⟨binding, rfl, -, slots⟩ | ⟨_, _, _, _, _, -, script, -⟩⟩ := Request.asked?_cases origin.fits.asked
  · refine ⟨before, binding, after, hr, ⟨origin.accepted, last⟩, fun s hs => ?_⟩
    rw [table] at hs
    obtain ⟨t, hostType, declared⟩ := slots.kind_of_mem hs
    have follows := Follows.serveAll hostType declared (.register binding :: after)
    have now : ((new config).serveAll before).serveAll (.register binding :: after) = (new config).after history := by
      rw [after_eq_serveAll, hr, serveAll, serveAll, serveAll, List.foldl_append]
    rw [now] at follows
    -- the registration itself maps nothing
    exact ⟨t, follows.hostType, follows.declared, follows.remapped, follows.agrees⟩
  · cases native.symm.trans (behaviour.trans script)

/-- Over every history of the registration phase a native entry and the registry agree on the kinds of its types, but for
the types that were mapped to another kind after its registration. -/
theorem kinds_agree_unless_remapped (config : BindConfig) (history : List (Operation P)) :
    KindsAgree config history := by
  constructor
  · intro key e adapter found native
    exact registeredBy found native
  · intro mappings rest hm unregistered unmapped key e adapter found native s hs
    obtain ⟨before, binding, after, hr, -, follows⟩ := registeredBy found native
    obtain ⟨t, follows⟩ := follows s hs
    refine ⟨t, follows.hostType, follows.agrees.mpr fun k hk => ?_⟩
    -- the registration is in the second part of the history, so what follows it is too
    obtain ⟨between, hb⟩ : ∃ between, rest = between ++ .register binding :: after := by
      obtain ⟨between, -, hb⟩ | ⟨between, hb, hrest⟩ := List.append_eq_append_iff.mp (hm.symm.trans hr)
      · exact ⟨between, hb⟩
      · cases between with
        | nil => exact ⟨[], hrest.symm⟩
        | cons r between =>
          obtain ⟨rfl, -⟩ := List.cons.inj hrest
          cases unregistered (.register binding) (by simp [hb])
    have none : lastMapping? t after = none := by
      refine lastMapping?_eq_none fun k mapped => unmapped t k ?_
      rw [hb]
      exact List.mem_append_right _ (List.mem_cons_of_mem _ mapped)
    cases none.symm.trans hk

section Instance
open HostLibrary

private abbrev warmth : HostType := celsius "host"

private def remapping : List (Operation Unit) :=
  [.mapKind warmth .float, .register (.function "Warm" ⟨[warmth], .float, fun (a, ()) => a⟩), .mapKind warmth .int]

/-- Its slot keeps the kind that the type had, which is not the one that the registry has. -/
theorem kind_of_slot_outdated :
    ((((new .standard).after remapping).build.findByName? "" "Warm").bind (·.table.slot? 1)).map
        (fun s => (s.hostType, s.kind)) = some (some warmth, .float) ∧
      ((new .standard).after remapping).build.kinds.kindOf warmth = .int := by
  decide +kernel

end Instance

end Builder
end ScriptBridge
