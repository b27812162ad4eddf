import ScriptBridge.Proofs.ExpandedSignature
import ScriptBridge.Proofs.SettingGrammar

/-! What attributes accept, and which rule is reported. The settings are checked from left to right, and then the item
by rules in a fixed order, of which the first that is broken is the one reported. -/
namespace ScriptBridge.Attribute

open Source (Item Parameter Place Token TextLiteral readItem)

abbrev Rules := List (Rejection × Prop)

inductive FirstBroken (r : Rejection) : Rules → Prop where
  | here {broken : Prop} {rules : Rules} (h : broken) : FirstBroken r ((r, broken) :: rules)
  | later {rule : Rejection × Prop} {rules : Rules} (kept : ¬ rule.2) (h : FirstBroken r rules) :
    FirstBroken r (rule :: rules)

def commonRules (s : Source.Signature) : Rules := [
  (.asynchronous, s.isAsync = true),
  (.generic, s.generics ≠ []),
  (.variadic, s.isVariadic = true)]

/-- Rules for parameters with types. Only the type itself must not be abstract, not what stands inside it. -/
def parameterRules (ps : List Parameter) : Rules := [
  (.tooManyParameters, 12 < ps.length),
  (.abstractParameter, ∃ type, .typed type ∈ ps ∧ type.head? = some (.word false "impl"))]

/-- Rules for free functions: no class is set, and there is no receiver. -/
def functionRules (settings : Settings) (s : Source.Signature) : Rules :=
  (.classOfFunction, settings.cls ≠ none) :: commonRules s ++
    (.functionReceiver, ∃ r, .receiver r ∈ s.parameters) :: parameterRules s.parameters

/-- Rules for methods: the first parameter is `&self` or `&mut self`. -/
def methodRules (s : Source.Signature) : Rules :=
  commonRules s ++
    (.receiverMissing, ¬ ∃ r, s.parameters.head? = some (.receiver r)) ::
    (.receiverNotBorrowed, ¬ ∃ isMutable, s.parameters.head? = some (.receiver ⟨true, isMutable, false⟩)) ::
    parameterRules s.parameters.tail

def rules (settings : Settings) (s : Source.Signature) : Place → Rules
  | .free => functionRules settings s
  | .member => methodRules s

/-- An outcome is in accord with some rules: it is a success only if none is broken, and a rejection only for the first
that is broken. -/
def Follows {α : Type} (rules : Rules) : Except Rejection α → Prop
  | .ok _ => ∀ rule ∈ rules, ¬ rule.2
  | .error r => FirstBroken r rules

section Follows
variable {α : Type} {rules : Rules} {x : Except Rejection α} {r r' : Rejection}

private theorem FirstBroken.exists_broken (h : FirstBroken r rules) : ∃ rule ∈ rules, rule.2 := by
  induction h with
  | here broken => exact ⟨_, List.mem_cons_self, broken⟩
  | later _ _ ih =>
    obtain ⟨rule, among, broken⟩ := ih
    exact ⟨rule, List.mem_cons_of_mem _ among, broken⟩

theorem FirstBroken.unique (h : FirstBroken r rules) (h' : FirstBroken r' rules) : r = r' := by
  induction h with
  | here broken =>
    cases h' with
    | here => rfl
    | later kept => exact absurd broken kept
  | later kept _ ih =>
    cases h' with
    | here broken => exact absurd broken kept
    | later _ h' => exact ih h'

theorem Follows.ok_iff (h : Follows rules x) : (∃ a, x = .ok a) ↔ ∀ rule ∈ rules, ¬ rule.2 := by
  cases x with
  | ok a => exact ⟨fun _ => h, fun _ => ⟨a, rfl⟩⟩
  | error r =>
    obtain ⟨rule, among, broken⟩ := FirstBroken.exists_broken h
    exact ⟨nofun, fun kept => absurd broken (kept rule among)⟩

private theorem Follows.error_iff (h : Follows rules x) : x = .error r ↔ FirstBroken r rules := by
  cases x with
  | ok a =>
    refine ⟨nofun, fun first => ?_⟩
    obtain ⟨rule, among, broken⟩ := first.exists_broken
    exact absurd broken (h rule among)
  | error r' =>
    refine ⟨fun same => ?_, fun first => congrArg Except.error (FirstBroken.unique h first)⟩
    cases same
    exact h

theorem Follows.later {rule : Rejection × Prop} (kept : ¬ rule.2) (h : Follows rules x) :
    Follows (rule :: rules) x := by
  cases x with
  | ok a => exact List.forall_mem_cons.mpr ⟨kept, h⟩
  | error r => exact .later kept h

/-- What is refused if a rule is broken, and else goes on in accord with the others. -/
theorem Follows.refuse {broken : Bool} {p : Prop} {f : Unit → Except Rejection α} (checked : broken = true ↔ p)
    (others : ¬ p → Follows rules (f ())) : Follows ((r, p) :: rules) (refuse r broken >>= f) := by
  cases broken with
  | true => exact .here (checked.mp rfl)
  | false =>
    have kept : ¬ p := fun h => Bool.false_ne_true (checked.mpr h)
    exact .later kept (others kept)

end Follows

section Rules
variable {α : Type} {s : Source.Signature} {ps : List Parameter}

private theorem checkSignature_follows {others : Rules} {f : Unit → Except Rejection α} (h : Follows others (f ())) :
    Follows (commonRules s ++ others) (checkSignature s >>= f) := by
  simp only [checkSignature, bind_assoc]
  exact .refuse Iff.rfl fun _ => .refuse (by simp) fun _ => .refuse Iff.rfl fun _ => h

private theorem boundTypes_follows {f : List (List Token) → α} (typed : ps = s.types.map .typed) :
    Follows (parameterRules ps) (boundTypes s >>= fun types => .ok (f types)) := by
  subst typed
  simp only [boundTypes, bind_assoc, pure_bind]
  refine .refuse ?_ fun _ => .refuse ?_ fun _ _ among => absurd among List.not_mem_nil
  · rw [List.length_map, decide_eq_true_iff, maxTypedParameters]
  · simp [isAbstract]

private theorem isSome_receiver?_iff : s.receiver?.isSome = true ↔ ∃ r, .receiver r ∈ s.parameters := by
  rw [Source.Signature.receiver?, List.findSome?_isSome_iff]
  constructor
  · rintro ⟨p, among, receives⟩
    cases p with
    | receiver r => exact ⟨r, among⟩
    | typed type => cases receives
  · rintro ⟨r, among⟩
    exact ⟨_, among, rfl⟩

private theorem expandFunction_follows (settings : Settings) (item : Item) :
    Follows (functionRules settings item.signature) (expandFunction settings item) := by
  refine .refuse (by simp [Option.isSome_iff_ne_none]) fun _ => checkSignature_follows ?_
  refine .refuse isSome_receiver?_iff fun free => boundTypes_follows ?_
  rw [← isSome_receiver?_iff, Option.not_isSome_iff_eq_none] at free
  exact Source.Signature.map_typed_of_no_receiver (List.findSome?_eq_none_iff.mp free)

private theorem expandMethod_follows {item : Item} (settings : Settings)
    (later : ∀ p ∈ item.signature.parameters.tail, p.receiver? = none) :
    Follows (methodRules item.signature) (expandMethod settings item) := by
  refine checkSignature_follows ?_
  have parameters := Source.Signature.parameters_eq later
  cases first : item.signature.parameters.head?.bind Parameter.receiver? with
  | none =>
    refine .here ?_
    rintro ⟨r, received⟩
    rw [received] at first
    cases first
  | some receiver =>
    obtain ⟨isBorrowed, isMutable, hasType⟩ := receiver
    rw [first] at parameters
    -- The receiver is the only one, so the types are those of the parameters behind it.
    simp only [accessOf, bind_assoc, pure_bind, parameters]
    refine .later (not_not_intro ⟨_, rfl⟩) (.refuse ?_ fun _ => boundTypes_follows rfl)
    cases isBorrowed <;> cases hasType <;> simp

end Rules

section Texts
variable {place : Place} {settings item : String} {s : Settings} {ts : List Token} {i : Item}

private theorem ofText_eq_ok_iff (scanned : Source.scan settings = some ts) :
    Settings.ofText settings = .ok s ↔ ∃ given, Gives ts given ∧ s = .ofList given := by
  simp only [Settings.ofText, scanned, ← readSettings_eq_ok_iff]
  cases readSettings ts <;> simp [Except.map, eq_comm]

private theorem ofText_eq_error_iff {e : SettingError} (scanned : Source.scan settings = some ts) :
    Settings.ofText settings = .error e ↔ FirstWrong e ts := by
  simp only [Settings.ofText, scanned, ← readSettings_eq_error_iff]
  cases readSettings ts <;> simp [Except.map]

private theorem expand_of_settings_error {e : SettingError} (h : Settings.ofText settings = .error e) :
    expand place settings item = .error (.setting e) := by
  rw [expand, h]
  rfl

/-- An item that can be read is checked by the rules of its place. -/
theorem exists_follows (given : Settings.ofText settings = .ok s) (scanned : Source.scan item = some ts)
    (read : readItem place ts = some i) : ∃ x : Except Rejection Expansion,
      Follows (rules s i.signature place) x ∧ expand place settings item = x.mapError .rejected := by
  obtain ⟨-, -, -, later⟩ := Source.readItem_laid read
  have found : (Source.scan item >>= readItem place) = some i := by
    rw [scanned]
    exact read
  have expanded : expand place settings item = (match place with
      | .free => expandFunction s i
      | .member => expandMethod s i).mapError .rejected := by
    simp only [expand, given, found]
    rfl
  cases place with
  | free => exact ⟨_, expandFunction_follows s i, expanded⟩
  | member => exact ⟨_, expandMethod_follows s later, expanded⟩

structure CheckedInOrder (place : Place) (settings item : String) : Prop where
  /-- Of settings that are all written as such, the last name and the last class count. -/
  settings_accepted : ∀ ts s, Source.scan settings = some ts →
    (Settings.ofText settings = .ok s ↔ ∃ given, Gives ts given ∧
      s.name = (given.filterMap Setting.name?).getLast? ∧ s.cls = (given.filterMap Setting.cls?).getLast?)
  /-- Others are refused for the first item that is no setting. -/
  settings_refused : ∀ ts e, Source.scan settings = some ts →
    (Settings.ofText settings = .error e ↔ FirstWrong e ts)
  settings_first : ∀ e, Settings.ofText settings = .error e → expand place settings item = .error (.setting e)
  /-- Then an item that can be read is accepted if it breaks no rule. -/
  accepted : ∀ s ts i, Settings.ofText settings = .ok s → Source.scan item = some ts → readItem place ts = some i →
    ((∃ x, expand place settings item = .ok x) ↔ ∀ rule ∈ rules s i.signature place, ¬ rule.2)
  /-- Otherwise the first rule that it breaks is reported. -/
  rejected : ∀ s ts i r, Settings.ofText settings = .ok s → Source.scan item = some ts → readItem place ts = some i →
    (expand place settings item = .error (.rejected r) ↔ FirstBroken r (rules s i.signature place))

theorem checked_in_order (place : Place) (settings item : String) : CheckedInOrder place settings item where
  settings_accepted := by
    intro ts s scanned
    rw [ofText_eq_ok_iff scanned]
    obtain ⟨name, cls⟩ := s
    simp only [Settings.ofList, Settings.mk.injEq]
  settings_refused _ _ := ofText_eq_error_iff
  settings_first _ := expand_of_settings_error
  accepted := by
    intro s ts i given scanned read
    obtain ⟨x, follows, expanded⟩ := exists_follows given scanned read
    rw [expanded, ← follows.ok_iff]
    exact exists_congr fun _ => mapError_eq_ok
  rejected := by
    intro s ts i r given scanned read
    obtain ⟨x, follows, expanded⟩ := exists_follows given scanned read
    rw [expanded, ← follows.error_iff]
    cases x with
    | ok x => constructor <;> rintro ⟨⟩
    | error r => constructor <;> rintro ⟨⟩ <;> rfl

end Texts

section Instance

private def renamed : String := "name = \"First\", class = \"\", name = \"Last\","

private def crowded : String := "async fn run<T>(self, x: impl Copy) \x7b\x7d"

/-- The last name counts, and of four broken rules the first is reported. -/
theorem checked_in_order_crowded : ∃ s ts i, Settings.ofText renamed = .ok s ∧
    s.name.map TextLiteral.value = some "Last" ∧ Source.scan crowded = some ts ∧ readItem .member ts = some i ∧
    FirstBroken .asynchronous (rules s i.signature .member) ∧
    expand .member renamed crowded = .error (.rejected .asynchronous) := by
  have settings : (Settings.ofText renamed).toOption.map (·.name.map TextLiteral.value) = some (some "Last") := by
    decide +kernel
  have item : ((Source.scan crowded).bind (readItem .member)).map (·.signature.isAsync) = some true := by
    decide +kernel
  obtain ⟨i, read, isAsync⟩ := Option.map_eq_some_iff.mp item
  obtain ⟨ts, scanned, read⟩ := Option.bind_eq_some_iff.mp read
  cases given : Settings.ofText renamed with
  | error e =>
    rw [given] at settings
    cases settings
  | ok s =>
    rw [given] at settings
    have first : FirstBroken .asynchronous (rules s i.signature .member) := .here isAsync
    exact ⟨s, ts, i, rfl, Option.some.inj settings, scanned, read, first,
      ((checked_in_order .member renamed crowded).rejected s ts i _ given scanned read).mpr first⟩

end Instance

end ScriptBridge.Attribute
