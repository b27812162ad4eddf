import ScriptBridge.ConfigText
import ScriptBridge.Proofs.PlainDocument

/-! A configuration that is written as text is read back, and so is what is left of it when some of its lines are
left out. -/
namespace ScriptBridge.BindConfig

open Toml (Line Plain IsBare)

inductive Field where
  | duplicatePolicy | maxParameters | validateDefaults
deriving DecidableEq

namespace Field

def all : List Field := [duplicatePolicy, maxParameters, validateDefaults]

def key : Field → String
  | duplicatePolicy => "duplicate_policy"
  | maxParameters => "max_parameters"
  | validateDefaults => "validate_defaults"

def shown (c : BindConfig) : Field → Plain
  | duplicatePolicy => .string c.duplicatePolicy.text
  | maxParameters => .count c.maxParameters
  | validateDefaults => .truth c.validateDefaults

private theorem mem_all (f : Field) : f ∈ all := by
  cases f <;> decide

private theorem nodup_all : all.Nodup := by
  decide

private theorem key_injective : Function.Injective key := by
  intro f g h
  cases f <;> cases g <;> first | rfl | exact absurd h (by decide)

private theorem isBare_key (f : Field) : IsBare f.key := by
  constructor
  · cases f <;> decide
  · cases f <;> decide

end Field

variable {c : BindConfig} {kept : Field → Bool}

def pairs (c : BindConfig) (kept : Field → Bool) : List (String × Plain) :=
  (Field.all.filter kept).map fun f => (f.key, f.shown c)

def textOf (c : BindConfig) (kept : Field → Bool) : String :=
  String.join ((c.pairs kept).map fun p => (Line.pair p.1 p.2).text)

def restrict (c : BindConfig) (kept : Field → Bool) : BindConfig where
  duplicatePolicy := if kept .duplicatePolicy then c.duplicatePolicy else standard.duplicatePolicy
  maxParameters := if kept .maxParameters then c.maxParameters else standard.maxParameters
  validateDefaults := if kept .validateDefaults then c.validateDefaults else standard.validateDefaults

/-- The whole text is that of all settings. -/
theorem textOf_all (c : BindConfig) : c.textOf (fun _ => true) = c.text := by
  have all : c.pairs (fun _ => true) = [("duplicate_policy", .string c.duplicatePolicy.text),
    ("max_parameters", .count c.maxParameters), ("validate_defaults", .truth c.validateDefaults)] := rfl
  apply String.toList_injective
  unfold text
  simp only [textOf, all, List.map_cons, List.map_nil, Line.text, Plain.text, String.join_cons, String.join_nil,
    String.toList_append, List.append_assoc]
  rfl

private theorem restrict_all (c : BindConfig) : c.restrict (fun _ => true) = c := rfl

private theorem shown_writable (bounded : (c.maxParameters : Int) ≤ Int64.maxValue.toInt) (f : Field) :
    (f.shown c).Writable := by
  cases f with
  | duplicatePolicy =>
    show c.duplicatePolicy.text.toList.all Toml.isUnescaped = true
    cases c.duplicatePolicy <;> decide
  | maxParameters => exact bounded
  | validateDefaults => trivial

/-- A setting is found under its key if it is kept. -/
theorem lookup_key {α : Type} (v : Field → α) (fs : List Field) (f : Field) :
    (fs.map fun g => (g.key, v g)).lookup f.key = if f ∈ fs then some (v f) else none := by
  induction fs with
  | nil => rfl
  | cons g fs ih =>
    rw [List.map_cons, List.lookup_cons, ih]
    by_cases same : f = g
    · subst same
      simp
    · have apart : (f.key == g.key) = false := by
        simpa using Field.key_injective.ne same
      simp [apart, same]

/-- A setting that is kept is read from its line, and another is standard. -/
theorem setting_pairs {α : Type} {read : Toml.Value → Option α} {a : α} (standard : α) (f : Field)
    (h : read (f.shown c).value = some a) :
    setting read standard (((c.pairs kept).map fun p => (p.1, p.2.value)).lookup f.key) =
      some (if kept f then a else standard) := by
  have listed : f ∈ Field.all.filter kept ↔ kept f = true := by
    rw [List.mem_filter, and_iff_right f.mem_all]
  have found : ((c.pairs kept).map fun p => (p.1, p.2.value)).lookup f.key =
      if kept f then some (f.shown c).value else none := by
    rw [pairs, List.map_map, ← if_congr listed rfl rfl, ← lookup_key fun f => (f.shown c).value]
    rfl
  rw [found]
  cases kept f with
  | false => rfl
  | true => exact h

private theorem ofValue?_text (p : DuplicatePolicy) : DuplicatePolicy.ofValue? (.string p.text) = some p := by
  cases p <;> rfl

/-- Reading gives the kept settings, and the standard for the others. -/
theorem ofValue?_pairs (c : BindConfig) (kept : Field → Bool) :
    ofValue? (.table .header ((c.pairs kept).map fun p => (p.1, p.2.value))) = some (c.restrict kept) := by
  have policy := @setting_pairs c kept _ _ _ standard.duplicatePolicy .duplicatePolicy (ofValue?_text c.duplicatePolicy)
  have max := @setting_pairs c kept _ count? c.maxParameters standard.maxParameters .maxParameters rfl
  have validate := @setting_pairs c kept _ flag? c.validateDefaults standard.validateDefaults .validateDefaults rfl
  simp only [Field.key] at policy max validate
  simp only [ofValue?, ofSettings, policy, max, validate, Option.bind_eq_bind, Option.bind_some, Option.pure_def]
  rfl

/-- The text of the kept settings under the header is read as their configuration, which is then checked. -/
theorem ofText_textOf (bounded : (c.maxParameters : Int) ≤ Int64.maxValue.toInt) (kept : Field → Bool) :
    ofText ("[bindings]\n" ++ c.textOf kept) = (c.restrict kept).validate := by
  have named : IsBare "bindings" := ⟨by decide, by decide⟩
  have writable : ∀ p ∈ c.pairs kept, IsBare p.1 ∧ p.2.Writable := by
    intro p hp
    obtain ⟨f, -, rfl⟩ := List.mem_map.mp hp
    exact ⟨f.isBare_key, shown_writable bounded f⟩
  have apart : ((c.pairs kept).map Prod.fst).Nodup := by
    rw [pairs, List.map_map]
    exact List.Pairwise.map Field.key (fun _ _ other => Field.key_injective.ne other) (Field.nodup_all.filter kept)
  have written : "[bindings]\n" ++ c.textOf kept =
      String.join ((Line.header "bindings" :: (c.pairs kept).map fun p => .pair p.1 p.2).map Line.text) := by
    rw [List.map_cons, String.join_cons, List.map_map, textOf]
    rfl
  have found : setting ofValue? standard ((Toml.oneTable "bindings" _).find? "bindings") = some (c.restrict kept) :=
    ofValue?_pairs c kept
  rw [ofText, written, Toml.readDocument_oneTable named writable apart, Option.bind_some, found]

/-- What a text has to give that was written for a configuration: the configuration itself if it allows between 1 and
15 parameters, and otherwise the complaint about their number. -/
structure ReadsBack (text : String) (c : BindConfig) : Prop where
  valid : 1 ≤ c.maxParameters ∧ c.maxParameters ≤ 15 → ofText text = .ok c
  invalid : ¬(1 ≤ c.maxParameters ∧ c.maxParameters ≤ 15) → ofText text = .error (.parameterRange c.maxParameters)

private theorem readsBack_of_validate {text : String} (h : ofText text = c.validate) : ReadsBack text c where
  valid inside := by
    rw [h, validate, parameterLimit, if_pos inside]
  invalid outside := by
    rw [h, validate, parameterLimit, if_neg outside]

/-- A configuration is read back from its text under the header, and with any of its lines left out it is read back
with the standard in their place. No such text is malformed. -/
theorem text_reads_back (c : BindConfig) (bounded : (c.maxParameters : Int) ≤ Int64.maxValue.toInt) :
    ReadsBack ("[bindings]\n" ++ c.text) c ∧
      ∀ kept, ReadsBack ("[bindings]\n" ++ c.textOf kept) (c.restrict kept) := by
  constructor
  · apply readsBack_of_validate
    rw [← textOf_all, ofText_textOf bounded, restrict_all]
  · intro kept
    exact readsBack_of_validate (ofText_textOf bounded kept)

/-- The largest number a document can give is read, and refused for its size; without its line the rest is accepted. -/
theorem text_reads_back_largest :
    ((9223372036854775807 : Nat) : Int) ≤ Int64.maxValue.toInt ∧
      ReadsBack ("[bindings]\n" ++ text ⟨.lastWins, 9223372036854775807, false⟩)
        ⟨.lastWins, 9223372036854775807, false⟩ ∧
      ∀ kept, ReadsBack ("[bindings]\n" ++ textOf ⟨.lastWins, 9223372036854775807, false⟩ kept)
        (restrict ⟨.lastWins, 9223372036854775807, false⟩ kept) :=
  ⟨by decide, text_reads_back ⟨.lastWins, 9223372036854775807, false⟩ (by decide)⟩

end ScriptBridge.BindConfig
