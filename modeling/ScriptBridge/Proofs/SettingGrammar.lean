import ScriptBridge.Attribute.Setting
import ScriptBridge.Proofs.ItemLayout

/-! The grammar of the settings of an attribute. A text is refused for its first item that is not a setting, as if
nothing came behind the comma that ends the item. -/
namespace ScriptBridge.Attribute

open Source (Token TextLiteral afterConstant afterMarks optionally pathMark)

/-- How a setting is written: the word for what it sets, and a text after an equals sign. A name is not empty. -/
inductive Setting.WrittenAs : Setting → List Token → Prop where
  | name {l : TextLiteral} (nonempty : l.value ≠ "") (joined : Bool) :
    WrittenAs (.name l) [.word false "name", .mark '=' joined, .text l]
  | cls (l : TextLiteral) (joined : Bool) : WrittenAs (.cls l) [.word false "class", .mark '=' joined, .text l]

/-- Tokens that give settings, with commas between. A comma may stand after the last. -/
inductive Gives : List Token → List Setting → Prop where
  | nil : Gives [] []
  | last {s : Setting} {item : List Token} (written : s.WrittenAs item) : Gives item [s]
  | more {s : Setting} {item rest : List Token} {given : List Setting} (written : s.WrittenAs item) (joined : Bool)
    (later : Gives rest given) : Gives (item ++ .mark ',' joined :: rest) (s :: given)

def isComma : Token → Bool
  | .mark ',' _ => true
  | _ => false

@[simp] theorem isComma_comma (joined : Bool) : isComma (.mark ',' joined) = true := rfl

private theorem eq_comma_of_isComma {t : Token} (h : isComma t = true) : ∃ joined, t = .mark ',' joined := by
  fun_cases isComma t with
  | case1 joined => exact ⟨joined, rfl⟩
  | case2 => simp_all [isComma]

structure WrongItem (item : List Token) : Prop where
  whole : ∀ t ∈ item, isComma t = false
  wrong : ∀ s : Setting, ¬ s.WrittenAs item

/-- Behind some settings there is an item that is none, and it is refused with an error, whatever comes behind its
comma. -/
inductive FirstWrong (e : SettingError) : List Token → Prop where
  | last {item : List Token} (wrong : WrongItem item) (alone : readSettings item = .error e) : FirstWrong e item
  | followed {item : List Token} (wrong : WrongItem item) (joined : Bool) (rest : List Token)
    (alone : readSettings (item ++ [.mark ',' joined]) = .error e) : FirstWrong e (item ++ .mark ',' joined :: rest)
  | later {s : Setting} {item rest : List Token} (written : s.WrittenAs item) (joined : Bool)
    (later : FirstWrong e rest) : FirstWrong e (item ++ .mark ',' joined :: rest)

section Setting
variable {ts rest : List Token} {s : Setting}

theorem Setting.WrittenAs.read {item : List Token} (written : s.WrittenAs item) (rest : List Token) :
    readSetting (item ++ rest) = .ok (s, rest) := by
  cases written with
  | name nonempty joined => simp [readSetting, readSubject, readPathEnd, readText, nonempty]
  | cls l joined => simp [readSetting, readSubject, readPathEnd, readText]

private theorem eq_of_readPathEnd (h : readPathEnd ts = .ok (false, rest)) : rest = ts := by
  fun_cases readPathEnd ts <;> simp_all [readPathEnd]

private theorem word_of_readSubject {word : String} (h : readSubject ts = .ok (some word, rest)) :
    ts = .word false word :: rest := by
  fun_cases readSubject ts with
  | case1 raw name tail longer rest' read =>
    simp only [readSubject, read] at h
    cases raw <;> cases longer <;> cases h
    rw [eq_of_readPathEnd read]
  | _ => simp_all [readSubject]

private theorem text_of_readText {l : TextLiteral} (h : readText ts = .ok (l, rest)) :
    ∃ joined, ts = .mark '=' joined :: .text l :: rest := by
  fun_cases readText ts with
  | case1 joined l rest =>
    cases h
    exact ⟨joined, rfl⟩
  | _ => simp_all [readText]

/-- What is read as a setting is written as one. -/
theorem written_of_readSetting (h : readSetting ts = .ok (s, rest)) :
    ∃ item, s.WrittenAs item ∧ ts = item ++ rest := by
  fun_cases readSetting ts with
  | case4 _ subject l _ text nonempty =>
    simp only [readSetting, subject, text, if_neg nonempty] at h
    cases h
    obtain ⟨joined, rfl⟩ := text_of_readText text
    exact ⟨_, .name nonempty joined, word_of_readSubject subject⟩
  | case6 _ subject l _ text =>
    simp only [readSetting, subject, text] at h
    cases h
    obtain ⟨joined, rfl⟩ := text_of_readText text
    exact ⟨_, .cls l joined, word_of_readSubject subject⟩
  | _ => simp_all [readSetting]

end Setting

section Local

def leaving {α : Type} (more : List Token) :
    Except SettingError (α × List Token) → Except SettingError (α × List Token)
  | .ok (a, rest) => .ok (a, rest ++ more)
  | .error e => .error e

/-- Nothing that stands behind a comma is looked at. -/
def UpToComma {α : Type} (read : List Token → Except SettingError (α × List Token)) : Prop :=
  ∀ ts, ∃ o, ∀ joined more, read (ts ++ .mark ',' joined :: more) = leaving (.mark ',' joined :: more) o

/-- What stands before a comma begins like all of it. -/
theorem cons_of_append {ts more rest : List Token} {joined : Bool} {t : Token}
    (h : ts ++ .mark ',' joined :: more = t :: rest) (other : isComma t = false) :
    ∃ inner, ts = t :: inner ∧ inner ++ .mark ',' joined :: more = rest := by
  cases ts with
  | nil =>
    cases h
    cases other
  | cons u inner =>
    cases h
    exact ⟨inner, rfl, rfl⟩

private theorem pathMark_of_append {ts more rest : List Token} {joined j : Bool}
    (h : ts ++ .mark ',' joined :: more = .mark ':' true :: .mark ':' j :: rest) :
    ∃ inner, ts = .mark ':' true :: .mark ':' j :: inner ∧ inner ++ .mark ',' joined :: more = rest := by
  obtain ⟨_, rfl, after⟩ := cons_of_append h rfl
  obtain ⟨inner, rfl, last⟩ := cons_of_append after rfl
  exact ⟨inner, rfl, last⟩

private theorem readPathEnd_upToComma : UpToComma readPathEnd := by
  intro ts
  fun_induction readPathEnd ts with
  | case1 _ _ _ _ _ _ _ ih | case2 _ _ _ _ _ _ ih =>
    obtain ⟨o, ih⟩ := ih
    refine ⟨o.map fun p => (true, p.2), fun joined more => ?_⟩
    rw [List.cons_append, List.cons_append, List.cons_append, readPathEnd, ih]
    cases o <;> rfl
  | case3 _ rest unnamed =>
    refine ⟨.error (.pathBroken false), fun joined more => ?_⟩
    cases rest with
    | nil => rfl
    | cons t rest =>
      cases t with
      | word raw name => exact absurd rfl (unnamed raw name rest)
      | _ => rfl
  | case4 ts _ unmarked =>
    refine ⟨.ok (false, ts), fun joined more => ?_⟩
    have unmarked' j rest (h : ts ++ .mark ',' joined :: more = .mark ':' true :: .mark ':' j :: rest) : False := by
      obtain ⟨inner, same, -⟩ := pathMark_of_append h
      exact unmarked j inner same
    exact readPathEnd.eq_3 _ (fun j _ _ _ => unmarked' j _) unmarked'

private theorem isSome_afterConstant_append (ts : List Token) (joined : Bool) (more : List Token) :
    (afterConstant (ts ++ .mark ',' joined :: more)).isSome = (afterConstant ts).isSome := by
  fun_cases afterConstant ts with
  | case6 ts text literal yes no minus =>
    rw [Source.afterConstant.eq_6]
    · intro l rest h
      obtain ⟨inner, rfl, -⟩ := cons_of_append h rfl
      exact text l inner rfl
    · intro spelling rest h
      obtain ⟨inner, rfl, -⟩ := cons_of_append h rfl
      exact literal spelling inner rfl
    · intro rest h
      obtain ⟨inner, rfl, -⟩ := cons_of_append h rfl
      exact yes inner rfl
    · intro rest h
      obtain ⟨inner, rfl, -⟩ := cons_of_append h rfl
      exact no inner rfl
    · intro j spelling rest h
      obtain ⟨_, rfl, after⟩ := cons_of_append h rfl
      obtain ⟨inner, rfl, -⟩ := cons_of_append after rfl
      exact minus j spelling inner rfl
  | _ => rfl

private theorem optionally_pathMark_append (ts : List Token) (joined : Bool) (more : List Token) :
    optionally (afterMarks pathMark) (ts ++ .mark ',' joined :: more) =
      optionally (afterMarks pathMark) ts ++ .mark ',' joined :: more := by
  cases marked : afterMarks pathMark ts with
  | some rest =>
    obtain ⟨j, rfl⟩ := Source.afterMarks_pathMark_eq_some_iff.mp marked
    rfl
  | none =>
    have unmarked : afterMarks pathMark (ts ++ .mark ',' joined :: more) = none := by
      refine Option.eq_none_iff_forall_ne_some.mpr fun rest h => ?_
      obtain ⟨j, h⟩ := Source.afterMarks_pathMark_eq_some_iff.mp h
      obtain ⟨inner, rfl, -⟩ := pathMark_of_append h
      rw [Source.afterMarks_pathMark_eq_some_iff.mpr ⟨j, rfl⟩] at marked
      cases marked
    rw [optionally, optionally, marked, unmarked]
    rfl

private theorem readSubject_upToComma : UpToComma readSubject := by
  intro ts
  fun_cases readSubject ts with
  | case1 raw word rest | case2 raw word rest =>
    obtain ⟨o, ho⟩ := readPathEnd_upToComma rest
    refine ⟨o.map fun p => (if raw || p.1 then none else some word, p.2), fun joined more => ?_⟩
    rw [List.cons_append, readSubject, ho]
    cases o <;> rfl
  | case3 j raw name rest | case4 j raw name rest =>
    obtain ⟨o, ho⟩ := readPathEnd_upToComma rest
    refine ⟨o.map fun p => (none, p.2), fun joined more => ?_⟩
    rw [List.cons_append, List.cons_append, List.cons_append, readSubject, ho]
    cases o <;> rfl
  | case5 ts unworded unnamed start =>
    refine ⟨.error (if (afterConstant start).isSome then .literalToSet else .tokenToSet), fun joined more => ?_⟩
    rw [readSubject.eq_3]
    · simp only [optionally_pathMark_append, isSome_afterConstant_append, start]
      simp [leaving]
    · intro raw word rest h
      obtain ⟨inner, rfl, -⟩ := cons_of_append h rfl
      exact unworded raw word inner rfl
    · intro j raw name rest h
      obtain ⟨_, rfl, after⟩ := pathMark_of_append h
      obtain ⟨inner, rfl, -⟩ := cons_of_append after rfl
      exact unnamed j raw name inner rfl

private theorem readText_upToComma : UpToComma readText := by
  intro ts
  fun_cases readText ts with
  | case1 _ l rest => exact ⟨.ok (l, rest), fun _ _ => rfl⟩
  | case2 _ rest untexted =>
    refine ⟨.error (.textMissing false), fun joined more => ?_⟩
    cases rest with
    | nil => rfl
    | cons t rest =>
      cases t with
      | text l => exact absurd rfl (untexted l rest)
      | _ => rfl
  | case3 ts _ unmarked =>
    refine ⟨.error (.markMissing '='), fun joined more => ?_⟩
    have unmarked' j rest (h : ts ++ .mark ',' joined :: more = .mark '=' j :: rest) : False := by
      obtain ⟨inner, rfl, -⟩ := cons_of_append h rfl
      exact unmarked j inner rfl
    exact readText.eq_3 _ (fun j _ _ => unmarked' j _) unmarked'

private theorem readSetting_upToComma : UpToComma readSetting := by
  intro ts
  obtain ⟨subject, hs⟩ := readSubject_upToComma ts
  rcases subject with e | ⟨word, rest⟩
  · exact ⟨.error e, fun joined more => by simp only [readSetting, hs, leaving]⟩
  obtain ⟨text, ht⟩ := readText_upToComma rest
  by_cases name : word = some "name"
  · subst name
    rcases text with e | ⟨l, rest⟩
    · exact ⟨.error e, fun joined more => by simp only [readSetting, hs, ht, leaving]⟩
    · refine ⟨if l.value = "" then .error .nameEmpty else .ok (.name l, rest), fun joined more => ?_⟩
      simp only [readSetting, hs, ht, leaving]
      split <;> rfl
  by_cases cls : word = some "class"
  · subst cls
    rcases text with e | ⟨l, rest⟩
    · exact ⟨.error e, fun joined more => by simp only [readSetting, hs, ht, leaving]⟩
    · exact ⟨.ok (.cls l, rest), fun joined more => by simp only [readSetting, hs, ht, leaving]⟩
  · refine ⟨.error .unknownSetting, fun joined more => ?_⟩
    simp only [readSetting, hs, leaving]
    split <;> simp_all

end Local

section Settings
variable {ts rest item : List Token} {s : Setting} {e : SettingError}

private theorem readSettings_of_error (given : ts ≠ []) (h : readSetting ts = .error e) :
    readSettings ts = .error e := by
  cases ts with
  | nil => exact absurd rfl given
  | cons t ts =>
    rw [readSettings]
    split <;> simp_all

private theorem readSettings_of_last (h : readSetting ts = .ok (s, [])) : readSettings ts = .ok [s] := by
  cases ts with
  | nil => cases h
  | cons t ts =>
    rw [readSettings]
    split <;> simp_all

private theorem readSettings_of_comma {joined : Bool} (h : readSetting ts = .ok (s, .mark ',' joined :: rest)) :
    readSettings ts = (readSettings rest).map (s :: ·) := by
  cases ts with
  | nil => cases h
  | cons t ts =>
    rw [readSettings]
    split <;> simp_all
    cases readSettings rest <;> rfl

private theorem readSettings_of_uncomma {t : Token} (h : readSetting ts = .ok (s, t :: rest))
    (other : isComma t = false) : readSettings ts = .error (.markMissing ',') := by
  cases ts with
  | nil => cases h
  | cons u ts =>
    rw [readSettings]
    split <;> simp_all
    simp [← h.2.1] at other

def fault : Except SettingError (Setting × List Token) → SettingError
  | .error e => e
  | .ok _ => .markMissing ','

/-- An item that is no setting is refused, even if it begins with one. -/
theorem WrongItem.refused (h : WrongItem item) {after : List Token} (given : item ++ after ≠ [])
    {o : Except SettingError (Setting × List Token)} (read : readSetting (item ++ after) = leaving after o) :
    readSettings (item ++ after) = .error (fault o) := by
  rcases o with e | ⟨s, rest⟩
  · exact readSettings_of_error given read
  · obtain ⟨front, written, same⟩ := written_of_readSetting read
    have same : item = front ++ rest := List.append_cancel_right (same.trans (List.append_assoc ..).symm)
    -- Only the front of the item is a setting, and what follows it there is no comma.
    cases rest with
    | nil =>
      rw [List.append_nil] at same
      exact absurd (same ▸ written) (h.wrong s)
    | cons t rest =>
      have other : isComma t = false := h.whole t (by simp [same])
      exact readSettings_of_uncomma read other

private theorem WrongItem.refused_last (h : WrongItem item) (given : item ≠ []) :
    ∃ e, readSettings item = .error e := by
  have read : readSetting (item ++ []) = leaving [] (readSetting item) := by
    rw [List.append_nil]
    cases readSetting item <;> simp [leaving]
  have refused := h.refused (by simpa using given) read
  rw [List.append_nil] at refused
  exact ⟨_, refused⟩

/-- It is refused with the same error, whatever comes behind its comma. -/
theorem WrongItem.refused_followed (h : WrongItem item) :
    ∃ e, ∀ joined more, readSettings (item ++ .mark ',' joined :: more) = .error e := by
  obtain ⟨o, read⟩ := readSetting_upToComma item
  exact ⟨fault o, fun joined more => h.refused (by simp) (read joined more)⟩

private theorem Setting.WrittenAs.readSettings_more (written : s.WrittenAs item) (joined : Bool) (rest : List Token) :
    readSettings (item ++ .mark ',' joined :: rest) = (readSettings rest).map (s :: ·) :=
  readSettings_of_comma (written.read _)

private theorem readSettings_of_gives {given : List Setting} (h : Gives ts given) : readSettings ts = .ok given := by
  induction h with
  | nil => rw [readSettings]
  | @last s item written =>
    refine readSettings_of_last ?_
    simpa using written.read []
  | more written joined _ ih =>
    rw [written.readSettings_more, ih]
    rfl

private theorem readSettings_of_firstWrong (h : FirstWrong e ts) : readSettings ts = .error e := by
  induction h with
  | last _ alone => exact alone
  | followed wrong joined rest alone =>
    obtain ⟨e', refused⟩ := wrong.refused_followed
    rw [refused] at alone ⊢
    exact alone
  | later written joined _ ih =>
    rw [written.readSettings_more, ih]
    rfl

/-- Some tokens up to their first comma. -/
theorem exists_item (ts : List Token) : ∃ item, (∀ t ∈ item, isComma t = false) ∧
    (ts = item ∨ ∃ joined rest, ts = item ++ .mark ',' joined :: rest) := by
  induction ts with
  | nil => exact ⟨[], nofun, .inl rfl⟩
  | cons t ts ih =>
    cases comma : isComma t with
    | true =>
      obtain ⟨joined, rfl⟩ := eq_comma_of_isComma comma
      exact ⟨[], nofun, .inr ⟨joined, ts, rfl⟩⟩
    | false =>
      obtain ⟨item, whole, split⟩ := ih
      refine ⟨t :: item, by simpa using ⟨comma, whole⟩, ?_⟩
      rcases split with rfl | ⟨joined, rest, rfl⟩
      · exact .inl rfl
      · exact .inr ⟨joined, rest, rfl⟩

/-- Some tokens give settings, or there is a first item among them that is none. -/
theorem gives_or_firstWrong (ts : List Token) : (∃ given, Gives ts given) ∨ ∃ e, FirstWrong e ts := by
  -- By the length of the tokens: what comes behind the first comma is shorter.
  obtain ⟨item, whole, split⟩ := exists_item ts
  by_cases written : ∃ s : Setting, s.WrittenAs item
  · obtain ⟨s, written⟩ := written
    obtain rfl | ⟨joined, rest, same⟩ := split
    · exact .inl ⟨_, .last written⟩
    · have shorter : rest.length < ts.length := by
        rw [same, List.length_append, List.length_cons]
        omega
      rw [same]
      obtain ⟨given, later⟩ | ⟨e, later⟩ := gives_or_firstWrong rest
      · exact .inl ⟨_, .more written joined later⟩
      · exact .inr ⟨e, .later written joined later⟩
  · have wrong : WrongItem item := ⟨whole, not_exists.mp written⟩
    obtain rfl | ⟨joined, rest, rfl⟩ := split
    · by_cases empty : ts = []
      · subst empty
        exact .inl ⟨[], .nil⟩
      · obtain ⟨e, alone⟩ := wrong.refused_last empty
        exact .inr ⟨e, .last wrong alone⟩
    · obtain ⟨e, refused⟩ := wrong.refused_followed
      exact .inr ⟨e, .followed wrong joined rest (refused joined [])⟩
termination_by ts.length
decreasing_by exact shorter

theorem readSettings_eq_ok_iff {given : List Setting} : readSettings ts = .ok given ↔ Gives ts given := by
  refine ⟨fun h => ?_, readSettings_of_gives⟩
  obtain ⟨given', gives⟩ | ⟨e, wrong⟩ := gives_or_firstWrong ts
  · rw [readSettings_of_gives gives] at h
    cases h
    exact gives
  · rw [readSettings_of_firstWrong wrong] at h
    cases h

theorem readSettings_eq_error_iff : readSettings ts = .error e ↔ FirstWrong e ts := by
  refine ⟨fun h => ?_, readSettings_of_firstWrong⟩
  obtain ⟨given, gives⟩ | ⟨e', wrong⟩ := gives_or_firstWrong ts
  · rw [readSettings_of_gives gives] at h
    cases h
  · rw [readSettings_of_firstWrong wrong] at h
    cases h
    exact wrong

end Settings

end ScriptBridge.Attribute
