import ScriptBridge.Proofs.Publication
import ScriptBridge.Proofs.Shape

/-! What entries with default records are shown as. Every record fits its entry, however it got there, so that the
text of the entry names each parameter and its default. -/
namespace ScriptBridge

namespace DefaultRecord
variable {record : DefaultRecord} {function : String} {table : SlotTable} {kinds : Bool}

/-- Each default is of the kind of its slot, unless this takes an object. -/
def KindsFit (params : List (String × SlotValue)) (slots : List Slot) : Prop :=
  ∀ (i : Nat) (p : String × SlotValue) (s : Slot), params[i]? = some p → slots[i]? = some s →
    s.kind = .object ∨ p.2.kind = s.kind

private theorem checkKinds_eq_ok_iff {position : Nat} {params : List (String × SlotValue)} {slots : List Slot} :
    checkKinds function position params slots = .ok () ↔ KindsFit params slots := by
  induction params generalizing position slots with
  | nil => simp [checkKinds, KindsFit]
  | cons first params ih =>
    cases slots with
    | nil => simp [checkKinds, KindsFit]
    | cons slot slots =>
      rw [checkKinds]
      split
      · rename_i fits
        rw [ih]
        constructor
        · intro rest i p s hp hs
          cases i with
          | zero =>
            cases hp
            cases hs
            exact fits
          | succ i => exact rest i p s hp hs
        · intro all i p s hp hs
          exact all (i + 1) p s hp hs
      · rename_i unfit
        constructor
        · intro h
          cases h
        · intro all
          exact absurd (all 0 first slot rfl rfl) unfit

/-- A record passes the checks of a table if it has a position for each slot and, if kinds are checked, fitting ones. -/
theorem validate_eq_ok_iff : record.validate function table kinds = .ok () ↔
    record.count = table.arity + 1 ∧ (kinds = true → KindsFit record.params table.params) := by
  simp only [validate]
  split
  · rename_i other
    constructor
    · intro h
      cases h
    · rintro ⟨count, -⟩
      exact absurd count other
  · rename_i same
    have count := not_not.mp same
    split
    · rename_i checked
      rw [checkKinds_eq_ok_iff]
      exact ⟨fun all => ⟨count, fun _ => all⟩, fun h => h.2 checked⟩
    · rename_i unchecked
      exact ⟨fun _ => ⟨count, fun checked => absurd checked unchecked⟩, fun _ => rfl⟩

private theorem isSome_default?_iff {i : Nat} : (record.default? i).isSome = true ↔ 1 ≤ i ∧ i < record.count := by
  cases i with
  | zero => simp [default?]
  | succ i => simp [default?, count, positions]

private theorem isSome_defaultText? {i : Nat} : (record.defaultText? i).isSome = (record.default? i).isSome :=
  Option.isSome_map

end DefaultRecord

def SlotValue.quoted : SlotValue → String
  | .string s => "\"" ++ s ++ "\""
  | value => value.text

def documentedParameter (kind : Kind) (documented : String × SlotValue) : String :=
  kind.text ++ " " ++ documented.1 ++ " = " ++ documented.2.quoted

namespace Entry
variable {P : Type} {e e' : Entry P} {record : DefaultRecord} {checked : Bool}

/-- The signature of an entry with what a record says about each parameter, and the help text on a line of its own. -/
def documentation (e : Entry P) (record : DefaultRecord) : String :=
  e.signature.returnKind.text ++ " " ++ e.qualified ++ "(" ++
    ", ".intercalate (List.zipWith documentedParameter e.signature.params record.params) ++ ")" ++
    if record.help = "" then "" else "\n" ++ record.help

/-- A parameter for which there is a default is shown with it. -/
theorem describeParameter_eq {p : String × SlotValue} {i : Nat} (has : e.defaults = some record)
    (hp : record.params[i]? = some p) (kind : Kind) : e.describeParameter i kind = documentedParameter kind p := by
  obtain ⟨name, value⟩ := p
  simp only [describeParameter, has, DefaultRecord.default?, hp, documentedParameter]
  cases value with
  | string s =>
    have quote : " = \"" = " = " ++ "\"" := rfl
    simp only [SlotValue.quoted, quote, String.append_assoc]
  | _ => rfl

structure Documented (e : Entry P) (record : DefaultRecord) (checked : Bool) : Prop where
  has : e.defaults = some record
  count : record.count = e.arity + 1
  result : record.positions[0]? = some (record.returnName, .void)
  /-- If kinds are checked, each default is of the kind of its parameter, but for those of objects. -/
  kinds : checked = true → ∀ i kind name value, e.signature.params[i]? = some kind →
    record.default? (i + 1) = some (name, value) → kind ≠ .object → value.kind = kind

namespace Documented

private theorem isSome_default?_iff (h : e.Documented record checked) (i : Nat) :
    (record.default? i).isSome = true ↔ 1 ≤ i ∧ i ≤ e.arity := by
  rw [DefaultRecord.isSome_default?_iff, h.count, Nat.lt_succ_iff]

theorem length (h : e.Documented record checked) : record.params.length = e.signature.params.length :=
  Nat.succ.inj h.count

theorem parameters (h : e.Documented record checked) :
    (e.signature.params.zipIdx.map fun (kind, index) => e.describeParameter index kind) =
      List.zipWith documentedParameter e.signature.params record.params := by
  refine List.ext_getElem (by simp [h.length]) fun i hi hi' => ?_
  have hr : i < record.params.length := by
    rw [List.length_zipWith] at hi'
    omega
  simp only [List.getElem_map, List.getElem_zipIdx, List.getElem_zipWith, Nat.zero_add]
  exact describeParameter_eq h.has (List.getElem?_eq_getElem hr) _

/-- With a record for each parameter, an entry is shown as the record documents it. -/
theorem describe_eq (h : e.Documented record checked) : e.describe = e.documentation record := by
  simp only [describe, h.parameters, h.has, documentation]
  split
  · exact String.append_empty.symm
  · simp only [String.append_assoc]

/-- What is in the slots of an entry has no part in it. -/
theorem of_blank (h : e.Documented record checked) (same : e'.blank = e.blank) : e'.Documented record checked := by
  have blank : e'.blank.Documented record checked := by
    rw [same]
    exact ⟨h.has, h.count, h.result, h.kinds⟩
  exact ⟨blank.has, blank.count, blank.result, blank.kinds⟩

end Documented
end Entry

namespace Builder
variable {P : Type} {b : Builder P}

def RecordsSuit (b : Builder P) : Prop :=
  ∀ key e, b.entries.find? key = some e → ∀ record ∈ e.defaults, b.Suits e record

/-- A record is checked wherever one gets to an entry, so every request keeps the records fitting. -/
theorem RecordsSuit.serve (h : b.RecordsSuit) (r : Request P) : (b.serve r).builder.RecordsSuit := by
  have hs := b.served r
  generalize b.serve r = o at hs ⊢
  cases hs with
  | mapped | unfit | conflict | missing | documented | unsuited => exact h
  | @published r entry fits free =>
    intro key e he
    dsimp only at he
    rw [Directory.find?_insert] at he
    split at he
    · cases he
      exact fits.suits
    · exact h key e he
  | @attached l record entry found none suits =>
    intro key e he
    dsimp only at he
    rw [Directory.find?_modify] at he
    split at he
    · rename_i hk
      rw [hk, found] at he
      cases he
      rintro record' ⟨⟩
      exact suits
    · exact h key e he

theorem RecordsSuit.serveAll (h : b.RecordsSuit) (requests : List (Request P)) : (b.serveAll requests).RecordsSuit := by
  induction requests generalizing b with
  | nil => exact h
  | cons r rest ih => exact ih (h.serve r)

private theorem recordsSuit_after (config : BindConfig) (history : List (Operation P)) :
    ((new config).after history).RecordsSuit := by
  rw [after_eq_serveAll]
  refine RecordsSuit.serveAll (b := new config) ?_ _
  intro key e he
  cases he

/-- A record that suits a coherent entry documents it. -/
theorem Suits.documented {e : Entry P} {record : DefaultRecord} (h : b.Suits e record) (coherent : e.Coherent)
    (has : e.defaults = some record) : e.Documented record b.config.validateDefaults := by
  obtain ⟨count, kinds⟩ := DefaultRecord.validate_eq_ok_iff.mp h
  have params : e.signature.params = e.table.params.map (·.kind) := congrArg Signature.params coherent
  have arity : e.arity = e.table.arity := by
    rw [Entry.arity, Signature.arity, params]
    exact List.length_map Slot.kind
  refine ⟨has, ?_, rfl, ?_⟩
  · rw [arity]
    exact count
  · intro checked i kind name value hk hd notObject
    rw [params, List.getElem?_map] at hk
    obtain ⟨s, hs, rfl⟩ := Option.map_eq_some_iff.mp hk
    exact (kinds checked i (name, value) s hd hs).resolve_left notObject

structure RecordsFit (config : BindConfig) (history : List (Operation P)) : Prop where
  entries : ∀ key e record, ((new config).after history).entries.find? key = some e → e.defaults = some record →
    e.Documented record config.validateDefaults
  /-- They stay as they are when the registry is built and while calls write slots, and entries are shown with them. -/
  described : ∀ r : Registry P, ((new config).after history).build.Alike r → ∀ key e record, r.find? key = some e →
    e.defaults = some record →
      e.Documented record config.validateDefaults ∧ r.describe? key = some (e.documentation record)
  /-- A record has a default for each parameter and for nothing else. -/
  defaults : ∀ r : Registry P, ((new config).after history).build.Alike r → ∀ key e record, r.find? key = some e →
    e.defaults = some record → ∀ i, ((record.default? i).isSome = true ↔ 1 ≤ i ∧ i ≤ e.arity) ∧
      ((record.defaultText? i).isSome = true ↔ 1 ≤ i ∧ i ≤ e.arity)

/-- Every default record fits its entry, over every history of the registration phase. -/
theorem records_fit (config : BindConfig) (history : List (Operation P)) : RecordsFit config history := by
  have entries : ∀ key e record, ((new config).after history).entries.find? key = some e →
      e.defaults = some record → e.Documented record config.validateDefaults := by
    intro key e record found has
    have suits := recordsSuit_after config history key e found record has
    have documented := suits.documented (coherent_after config history key e found).2 has
    rwa [after_eq_serveAll, serveAll_config] at documented
  have sealed : ∀ r : Registry P, ((new config).after history).build.Alike r → ∀ key e record,
      r.find? key = some e → e.defaults = some record → e.Documented record config.validateDefaults := by
    intro r alike key e' record found' has'
    obtain ⟨e, found, same⟩ := alike.find? found'
    have has : e.defaults = some record := (congrArg Entry.defaults same).symm.trans has'
    exact (entries key e record found has).of_blank same
  refine ⟨entries, ?_, ?_⟩
  · intro r alike key e record found has
    have documented := sealed r alike key e record found has
    refine ⟨documented, ?_⟩
    rw [Registry.describe?, found, Option.map_some, documented.describe_eq]
  · intro r alike key e record found has i
    have documented := sealed r alike key e record found has
    rw [DefaultRecord.isSome_defaultText?]
    exact ⟨documented.isSome_default?_iff i, documented.isSome_default?_iff i⟩

section Instance

private def greeting : List (Operation Unit) := [.declareScript "" "Greet" .void [("whom", .string)] none,
  .attachDefaults (.ofNames "" "Greet") ⟨"", [("whom", .string "all")], "Greets"⟩]

/-- A string among the defaults is shown in quotes. -/
theorem records_fit_greet : ((new .standard).after greeting).build.describe? (.ofNames "" "Greet") =
    some "void Greet(string whom = \"all\")\nGreets" := by
  have found : ((new .standard).after greeting).build.find? (.ofNames "" "Greet") = some
      { Entry.make "" "Greet" (.script none) ⟨⟨"__return", .void, none, .void⟩, [⟨"whom", .string, none, .void⟩]⟩ with
        defaults := some ⟨"", [("whom", .string "all")], "Greets"⟩ } := rfl
  rw [((records_fit .standard greeting).described _ (.refl _) _ _ _ found rfl).2]
  decide +kernel

end Instance

end Builder
end ScriptBridge
