import ScriptBridge.Proofs.AcceptedItems

/-! What the rules for items leave unseen. They look at the first token of each type, and not at whether an item is
unsafe, so that some items are accepted that are not concrete. -/
namespace ScriptBridge.Attribute

open Source (Item Parameter Place Receiver Token readItem)

/-- A type stands for any type with some traits, or has such a type in it at some depth. The word has no other use. -/
def HasAbstract (type : List Token) : Prop := .word false "impl" ∈ type

structure IsConcrete (s : Source.Signature) : Prop where
  generics : s.generics = []
  types : ∀ type ∈ s.types, ¬ HasAbstract type
  safe : s.isUnsafe = false

def front : Parameter → Parameter
  | .receiver r => .receiver r
  | .typed type => .typed (type.take 1)

/-- What is seen of a signature: the fronts of its parameters, and not whether it is unsafe. -/
def outline (s : Source.Signature) : Source.Signature :=
  { s with isUnsafe := false, parameters := s.parameters.map front }

section Outline
variable {ps : List Parameter} {r : Receiver}

@[simp] theorem front_eq_receiver {p : Parameter} : front p = .receiver r ↔ p = .receiver r := by
  cases p <;> simp [front]

private theorem receiver_mem_fronts : .receiver r ∈ ps.map front ↔ .receiver r ∈ ps := by
  simp

private theorem head?_fronts : (ps.map front).head? = some (.receiver r) ↔ ps.head? = some (.receiver r) := by
  simp [List.head?_map]

/-- The first token of a type is its front. -/
theorem exists_head?_fronts {t : Token} :
    (∃ type, .typed type ∈ ps.map front ∧ type.head? = some t) ↔ ∃ type, .typed type ∈ ps ∧ type.head? = some t := by
  constructor
  · rintro ⟨type, among, first⟩
    obtain ⟨p, hp, same⟩ := List.mem_map.mp among
    cases p with
    | receiver r => cases same
    | typed whole =>
      cases same
      rw [List.head?_take] at first
      exact ⟨whole, hp, by simpa using first⟩
  · rintro ⟨type, among, first⟩
    refine ⟨type.take 1, List.mem_map.mpr ⟨_, among, rfl⟩, ?_⟩
    rw [List.head?_take]
    simpa using first

private theorem parameterRules_fronts (ps : List Parameter) : parameterRules (ps.map front) = parameterRules ps := by
  simp only [parameterRules, List.length_map, exists_head?_fronts]

/-- The rules for an item are those for its outline. -/
theorem rules_outline (settings : Settings) (s : Source.Signature) (place : Place) :
    rules settings (outline s) place = rules settings s place := by
  cases place with
  | free =>
    simp only [rules, functionRules, outline, parameterRules_fronts, receiver_mem_fronts]
    rfl
  | member =>
    simp only [rules, methodRules, outline, ← List.map_tail, parameterRules_fronts, head?_fronts]
    rfl

end Outline

section Accepted
variable {place : Place} {settings item : String} {x : Expansion} {s : Settings}

private theorem mem_types {s : Source.Signature} {type : List Token} : type ∈ s.types ↔ .typed type ∈ s.parameters := by
  rw [Source.Signature.types, List.mem_filterMap]
  constructor
  · rintro ⟨p, among, typed⟩
    cases p with
    | receiver r => cases typed
    | typed type =>
      cases typed
      exact among
  · intro among
    exact ⟨_, among, rfl⟩

/-- What an accepted item was read from, and that it breaks no rule. -/
theorem unbroken_of_accepted (h : expand place settings item = .ok x) :
    ∃ s ts, Settings.ofText settings = .ok s ∧ Source.scan item = some ts ∧ readItem place ts = some x.kept ∧
      ∀ rule ∈ rules s x.kept.signature place, ¬ rule.2 := by
  obtain ⟨s, ts, i, given, scanned, read, made⟩ := expand_eq_ok h
  obtain rfl : x.kept = i := by
    cases place with
    | free =>
      obtain ⟨-, -, -, rfl⟩ := expandFunction_eq_ok made
      rfl
    | member =>
      obtain ⟨-, -, -, rfl⟩ := expandMethod_eq_ok made
      rfl
  obtain ⟨y, follows, expanded⟩ := exists_follows given scanned read
  exact ⟨s, ts, given, scanned, read, follows.ok_iff.mp ⟨x, mapError_eq_ok.mp (expanded.symm.trans h)⟩⟩

private theorem mem_rules_of_common {s : Settings} {sig : Source.Signature} {rule : Rejection × Prop}
    (common : rule ∈ commonRules sig) : rule ∈ rules s sig place := by
  cases place with
  | free => exact List.mem_cons_of_mem _ (List.mem_append_left _ common)
  | member => exact List.mem_append_left _ common

/-- An item that breaks no rule has no parameter of a type that is itself abstract. -/
theorem front_of_unbroken {sig : Source.Signature} (unbroken : ∀ rule ∈ rules s sig place, ¬ rule.2) :
    ∀ type ∈ sig.types, type.head? ≠ some (.word false "impl") := by
  intro type among abstract
  rw [mem_types] at among
  cases place with
  | free =>
    simp only [rules, functionRules, parameterRules, List.forall_mem_append, List.forall_mem_cons] at unbroken
    obtain ⟨-, -, -, unabstract, -⟩ := unbroken
    exact unabstract ⟨type, among, abstract⟩
  | member =>
    simp only [rules, methodRules, parameterRules, List.forall_mem_append, List.forall_mem_cons] at unbroken
    obtain ⟨-, received, -, -, unabstract, -⟩ := unbroken
    -- The receiver comes first, so the type is one of those behind it.
    obtain ⟨r, first⟩ := Classical.not_not.mp received
    obtain ⟨behind, same⟩ := List.head?_eq_some_iff.mp first
    rw [same] at among unabstract
    cases among with
    | tail _ later => exact unabstract ⟨type, later, abstract⟩

end Accepted

structure AcceptedFromOutside (place : Place) (settings : String) (s : Source.Signature) : Prop where
  generics : s.generics = []
  plain : s.isAsync = false ∧ s.isVariadic = false
  /-- No parameter is of a type that is itself abstract. -/
  fronts : ∀ type ∈ s.types, type.head? ≠ some (.word false "impl")
  /-- It is concrete unless it is unsafe, or has an abstract type behind the first token of some type. -/
  concrete_iff : IsConcrete s ↔ s.isUnsafe = false ∧ ∀ type ∈ s.types, ¬ HasAbstract type.tail
  /-- Any other item of the same outline is accepted as well. -/
  unseen : ∀ item ts i, Source.scan item = some ts → readItem place ts = some i → outline i.signature = outline s →
    ∃ x, expand place settings item = .ok x ∧ x.kept = i

private theorem hasAbstract_iff {type : List Token} :
    HasAbstract type ↔ type.head? = some (.word false "impl") ∨ HasAbstract type.tail := by
  cases type with
  | nil => simp [HasAbstract]
  | cons t ts => simp [HasAbstract, eq_comm]

/-- Whether an item is accepted shows in its outline, so an accepted item need not be concrete. -/
theorem accepted_from_outside {place : Place} {settings item : String} {x : Expansion}
    (h : expand place settings item = .ok x) : AcceptedFromOutside place settings x.kept.signature := by
  obtain ⟨s, -, given, -, -, unbroken⟩ := unbroken_of_accepted h
  have common : ∀ rule ∈ commonRules x.kept.signature, ¬ rule.2 := fun rule among =>
    unbroken rule (mem_rules_of_common among)
  simp only [commonRules, List.forall_mem_cons, Bool.not_eq_true, Classical.not_not] at common
  obtain ⟨synchronous, generics, fixed, -⟩ := common
  have fronts := front_of_unbroken unbroken
  refine ⟨generics, ⟨synchronous, fixed⟩, fronts, ?_, ?_⟩
  · constructor
    · rintro ⟨-, types, safe⟩
      exact ⟨safe, fun type among inside => types type among (hasAbstract_iff.mpr (.inr inside))⟩
    · rintro ⟨safe, inside⟩
      refine ⟨generics, fun type among abstract => ?_, safe⟩
      exact (hasAbstract_iff.mp abstract).elim (fronts type among) (inside type among)
  · intro item' ts i scanned read same
    obtain ⟨y, follows, expanded⟩ := exists_follows given scanned read
    rw [← rules_outline, same, rules_outline] at follows
    obtain ⟨x', rfl⟩ := follows.ok_iff.mpr unbroken
    have accepted : expand place settings item' = .ok x' := expanded
    obtain ⟨-, ts', -, scanned', read', -⟩ := unbroken_of_accepted accepted
    cases scanned.symm.trans scanned'
    exact ⟨x', accepted, Option.some.inj (read'.symm.trans read)⟩

section Instance

private def hidden : String := "fn f(a: &impl Clone) {}"

private def unsafely : String := "unsafe fn f() {}"

/-- A borrowed abstract type is not refused, though an item with it is generic. -/
theorem accepted_from_outside_hidden :
    ∃ x, expand .free "" hidden = .ok x ∧ AcceptedFromOutside .free "" x.kept.signature := by
  have accepted : (expand .free "" hidden).toOption.isSome = true := by
    decide +kernel
  obtain ⟨x, given⟩ := Option.isSome_iff_exists.mp accepted
  have h := toOption_eq_some given
  exact ⟨x, h, accepted_from_outside h⟩

/-- There is an accepted item with an abstract type, and one that is unsafe. -/
theorem not_all_concrete :
    (∃ x, expand .free "" hidden = .ok x ∧ ¬ IsConcrete x.kept.signature) ∧
      ∃ x, expand .free "" unsafely = .ok x ∧ ¬ IsConcrete x.kept.signature := by
  have abstract : (expand .free "" hidden).toOption.map (·.kept.signature.types.any (·.contains (.word false "impl"))) =
      some true := by
    decide +kernel
  have unsafe_kept : (expand .free "" unsafely).toOption.map (·.kept.signature.isUnsafe) = some true := by
    decide +kernel
  obtain ⟨x, given, found⟩ := Option.map_eq_some_iff.mp abstract
  obtain ⟨y, given', exposed⟩ := Option.map_eq_some_iff.mp unsafe_kept
  refine ⟨⟨x, toOption_eq_some given, fun concrete => ?_⟩, y, toOption_eq_some given', fun concrete => ?_⟩
  · obtain ⟨type, among, inside⟩ := List.any_eq_true.mp found
    exact concrete.types type among (List.contains_iff_mem.mp inside)
  · cases exposed.symm.trans concrete.safe

end Instance

end ScriptBridge.Attribute
