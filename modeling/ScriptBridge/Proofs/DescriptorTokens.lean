import ScriptBridge.Proofs.ItemLayout
import ScriptBridge.Attribute.Expansion

/-! The descriptor of an item as tokens. They are those of an item, without parameters and of the same visibility. -/
namespace ScriptBridge.Source

def comma : Token := .mark ',' false

def pathSeparator : List Token := [.mark ':' true, .mark ':' false]

def rootPath (parts : List String) : List Token := parts.flatMap fun part => pathSeparator ++ [.word false part]

def grouped (b : Bracket) (ts : List Token) : List Token := .opening b :: ts ++ [.closing b]

@[simp] theorem spelling_nil : spelling [] = "" := rfl

@[simp] theorem spelling_cons (t : Token) (ts : List Token) : spelling (t :: ts) = t.spelling ++ spelling ts := by
  simp [spelling]

@[simp] theorem spelling_append (ts us : List Token) : spelling (ts ++ us) = spelling ts ++ spelling us := by
  simp [spelling]

@[simp] theorem spelling_comma : comma.spelling = "," := rfl

@[simp] theorem spelling_text (l : TextLiteral) : (Token.text l).spelling = l.spelling := rfl

@[simp] theorem spelling_grouped (b : Bracket) (ts : List Token) :
    spelling (grouped b ts) = b.opening ++ (spelling ts ++ b.closing) := by
  simp [grouped, Token.spelling]

private theorem spelling_flatMap_comma (types : List (List Token)) :
    spelling (types.flatMap (· ++ [comma])) = String.join (types.map fun type => spelling type ++ ",") := by
  induction types with
  | nil => rfl
  | cons type types ih => simpa [String.append_assoc] using ih

theorem Closed.grouped (b : Bracket) {ts : List Token} (h : Closed ts) : Closed (Source.grouped b ts) := by
  intro other
  simp only [Source.grouped, List.cons_append, List.append_assoc, List.nil_append]
  exact .opened ((h _).andThen (.closed .done))

private theorem readParameters_none (type : Skip) (ts : List Token) :
    readParameters type (.closing .round :: ts) = some (([], false), ts) := by
  have items : readItems (readParameter type) (afterClosing .round) (.closing .round :: ts) = some ([], ts) := by
    rw [readItems, Text.repeatUntil]
    simp [afterClosing]
  have nothing : ([] : List (Option Parameter)).reduceOption = [] := rfl
  simp [readParameters, items, nothing]

end ScriptBridge.Source

namespace ScriptBridge.Attribute

open Source
open Text (repeatUntil_end repeatUntil_more)

def Access.tokens : Access → List Token
  | .shared => rootPath ["hostbind_engine", "Shared"]
  | .exclusive => rootPath ["hostbind_engine", "Exclusive"]

namespace Descriptor
variable (d : Descriptor)

def tuple : List (List Token) :=
  match d.target with
  | .function => d.types
  | .method access _ => access.tokens :: d.types

def cls? : Option TextLiteral :=
  match d.target with
  | .function => none
  | .method _ cls => cls

def itemTokens : List Token :=
  match d.target with
  | .function => [.word d.item.raw d.item.name]
  | .method .. => .word false "Self" :: pathSeparator ++ [.word d.item.raw d.item.name]

def arguments : List (List Token) := d.cls?.toList.map ([.text ·]) ++ [[.text d.scriptName], d.itemTokens]

def callee : List Token :=
  let constructor (name : String) (owner : List Token) : List Token :=
    rootPath ["hostbind_engine", "Binding", name] ++ pathSeparator ++ [.mark '<' false] ++ owner ++
      [.word false "_", comma]
  match d.target with
  | .function => constructor "function" []
  | .method _ none => constructor "method" [.word false "Self", comma]
  | .method _ (some _) => constructor "method_in" [.word false "Self", comma]

def call : List Token :=
  let last := match d.target with
    | .function => []
    | .method .. => [comma]
  d.callee ++ grouped .round (d.tuple.flatMap (· ++ [comma])) ++ [.mark '>' false] ++
    grouped .round ([comma].intercalate d.arguments ++ last)

def docAttribute : List Token :=
  .mark '#' false :: grouped .square
    [.word false "doc", .mark '=' false, .text ⟨d.documentation, Text.quotedText d.documentation⟩]

def header : List Token :=
  .word false "fn" :: .word false d.name :: grouped .round [] ++ [.mark '-' true, .mark '>' false] ++
    rootPath ["hostbind_engine", "Binding"]

def tokens : List Token := d.docAttribute ++ (d.visibility ++ (d.header ++ grouped .curly d.call))

end Descriptor

private theorem Access.spelling_tokens (access : Access) : spelling access.tokens = access.text := by
  cases access <;> decide

namespace Descriptor

theorem name_ne (d : Descriptor) : d.name ≠ "" := by
  simp [name]

private theorem spelling_tuple (d : Descriptor) :
    "(" ++ (spelling (d.tuple.flatMap (· ++ [comma])) ++ ")") = d.typeTuple := by
  unfold tuple typeTuple
  cases d.target <;> simp [spelling_flatMap_comma, Access.spelling_tokens, Function.comp_def, String.append_assoc]

private theorem spelling_itemTokens (d : Descriptor) : spelling d.itemTokens = d.itemPath := by
  have self : spelling (.word false "Self" :: pathSeparator) = "Self::" := by decide
  unfold itemTokens itemPath
  cases d.target with
  | function => simp [Source.Token.spelling, Source.Identifier.spelling]
  | method =>
    rw [spelling_append, self]
    simp [Source.Token.spelling, Source.Identifier.spelling]

private theorem spelling_arguments (d : Descriptor) : spelling ([comma].intercalate d.arguments) =
    (match d.cls? with | none => "" | some cls => cls.spelling ++ ",") ++
      (d.scriptName.spelling ++ ("," ++ d.itemPath)) := by
  unfold arguments
  cases d.cls? <;>
    simp [List.intercalate, List.intersperse, spelling_itemTokens, String.append_assoc]

private theorem spelling_callee (d : Descriptor) : spelling d.callee = "::hostbind_engine::Binding::" ++
    match d.target with
    | .function => "function::<_,"
    | .method _ none => "method::<Self,_,"
    | .method _ (some _) => "method_in::<Self,_," := by
  unfold callee
  rcases d.target with _ | ⟨access, _ | cls⟩
  · decide
  · dsimp only
    decide
  · dsimp only
    decide

/-- The call is the body that the descriptor function gets. -/
theorem spelling_call (d : Descriptor) : spelling (grouped .curly d.call) = d.body := by
  have front : "\x7b::hostbind_engine::Binding::" = "\x7b" ++ "::hostbind_engine::Binding::" := by decide
  have mark : spelling [.mark '>' false] = ">" := by decide
  have mid : ">(" = ">" ++ "(" := by decide
  have last : ",)" = "," ++ ")" := by decide
  unfold call body
  simp only [spelling_grouped, spelling_append, Bracket.opening, Bracket.closing, spelling_callee, spelling_tuple,
    spelling_arguments, front, mark, mid, last]
  unfold cls?
  rcases d.target with _ | ⟨access, _ | cls⟩ <;>
    simp only [spelling_cons, spelling_comma, spelling_nil, String.append_empty, String.empty_append,
      String.append_assoc]

end Descriptor

/-- The path that the descriptor function returns is one of two parts without arguments. -/
theorem readPath_binding (p : Phrases) (rest : List Token) :
    p.readPath (rootPath ["hostbind_engine", "Binding"] ++ .opening .curly :: rest) =
      some (false, .opening .curly :: rest) := by
  have engine (ts : List Token) :
      p.readPart (.word false "hostbind_engine" :: .mark ':' true :: .mark ':' false :: .word false "Binding" :: ts) =
        some (false, .mark ':' true :: .mark ':' false :: .word false "Binding" :: ts) := by
    simp [Phrases.readPart, afterName, isName, keywords, afterMarks, pathMark, afterMark, optionally]
  have binding : p.readPart (.word false "Binding" :: .opening .curly :: rest) =
      some (false, .opening .curly :: rest) := by
    simp [Phrases.readPart, afterName, isName, keywords, afterMarks, pathMark, afterMark, optionally]
  unfold Phrases.readPath Phrases.readParts
  have start : optionally (afterMarks pathMark) (rootPath ["hostbind_engine", "Binding"] ++ .opening .curly :: rest) =
      .word false "hostbind_engine" :: .mark ':' true :: .mark ':' false :: .word false "Binding" ::
        .opening .curly :: rest := rfl
  simp only [start, engine, Option.bind_eq_bind, Option.bind_some]
  rw [repeatUntil_more false [] (.opening .curly :: rest)]
  · rfl
  · simp [afterMarks, pathMark, afterMark, binding]
  · simp
  · exact repeatUntil_end rfl

theorem type_binding (levels : Nat) (rest : List Token) :
    (phrases (levels + 1)).type true (rootPath ["hostbind_engine", "Binding"] ++ .opening .curly :: rest) =
      some (.opening .curly :: rest) := by
  have path := readPath_binding (phrases levels) rest
  have bounds : (phrases levels).afterMoreBounds true (.opening .curly :: rest) = some (.opening .curly :: rest) := by
    rw [Phrases.afterMoreBounds, if_pos rfl, Phrases.readMoreBounds, repeatUntil_end rfl]
    rfl
  have optional : (phrases levels).afterOptionalCallTypes (.opening .curly :: rest) = some (.opening .curly :: rest) :=
    rfl
  simp only [rootPath, pathSeparator, List.flatMap_cons, List.flatMap_nil, List.cons_append, List.nil_append] at path ⊢
  simp [phrases, Phrases.afterType, Phrases.afterNamedType, path, optional, bounds]

private theorem afterAttribute_doc (d : Descriptor) (rest : List Token) :
    afterAttribute (d.docAttribute ++ rest) = some rest := by
  have part (ts : List Token) : afterPlainPart (.word false "doc" :: ts) = some ts := by
    simp [afterPlainPart, isName, keywords]
  have path (ts : List Token) :
      afterPlainPath (.word false "doc" :: .mark '=' false :: ts) = some (.mark '=' false :: ts) := by
    simp only [afterPlainPath, optionally, afterMarks, pathMark, Option.getD_none, part, Option.bind_eq_bind,
      Option.bind_some]
    rw [repeatUntil_end rfl]
    rfl
  simp [Descriptor.docAttribute, afterAttribute, afterMark, afterOpening, grouped, afterKeyword, path, afterSomeInside,
    afterInside]

private theorem afterAttributes_doc (d : Descriptor) {rest : List Token} (h : afterMark '#' rest = none) :
    afterAttributes (d.docAttribute ++ rest) = some rest := by
  rw [afterAttributes, repeatUntil_more () [] rest]
  · rfl
  · rw [afterAttribute_doc]
    rfl
  · simp [Descriptor.docAttribute, grouped]
    omega
  · exact repeatUntil_end (by rw [h])

private theorem isName_name (d : Descriptor) : isName (.word false d.name) = true := by
  -- no keyword ends as the name of a descriptor does
  have ends : ∀ keyword ∈ keywords, keyword.toList.getLast? ≠ some 'g' := by decide
  have last : d.name.toList.getLast? = some 'g' := by
    rw [Descriptor.name, String.toList_append, List.getLast?_append]
    rfl
  have unknown : d.name ∉ keywords := fun known => ends _ known last
  simp [isName, unknown]

private theorem readSignature_header (d : Descriptor) (rest : List Token) :
    readSignature (d.header ++ .opening .curly :: rest) =
      some (⟨false, false, ⟨false, d.name, d.name_ne⟩, [], [], false⟩, .opening .curly :: rest) := by
  have type (levels : Nat) := type_binding levels rest
  simp only [Descriptor.header, readSignature, optionally, afterKeyword, afterConvention, grouped, List.cons_append,
    List.nil_append]
  simp [d.name_ne, isName_name, readGenerics, afterMark, afterOpening, readParameters_none, Phrases.afterReturn,
    afterMarks, type, afterConditions, afterKeyword]

private theorem closed_call {d : Descriptor} (h : ∀ type ∈ d.types, Closed type) : Closed d.call := by
  have callee : Closed d.callee := by
    refine Closed.of_plain ?_
    unfold Descriptor.callee
    rcases d.target with _ | ⟨_, _ | _⟩ <;> simp [rootPath, pathSeparator, comma, Token.isPlain]
  have tuple : ∀ type ∈ d.tuple, Closed type := by
    unfold Descriptor.tuple
    cases d.target with
    | function => exact h
    | method access =>
      refine List.forall_mem_cons.mpr ⟨Closed.of_plain ?_, h⟩
      cases access <;> decide
  have arguments : Closed ([comma].intercalate d.arguments) := by
    refine Closed.of_plain ?_
    unfold Descriptor.arguments Descriptor.cls? Descriptor.itemTokens
    rcases d.target with _ | ⟨_, _ | _⟩ <;>
      simp [pathSeparator, comma, Token.isPlain, List.intercalate, List.intersperse]
  have comma : Closed [comma] := Closed.of_plain (by decide)
  unfold Descriptor.call
  refine ((callee.append (Closed.grouped _ (Closed.flatMap fun type ht => (tuple type ht).append comma))).append
    (Closed.of_plain (by decide))).append (Closed.grouped _ (arguments.append ?_))
  cases d.target with
  | function => exact .nil
  | method => exact comma

/-- The descriptor function is an item, seen by those that its visibility says, without parameters. -/
theorem readItem_tokens (place : Place) {d : Descriptor} (visible : Visibility d.visibility)
    (types : ∀ type ∈ d.types, Closed type) :
    readItem place d.tokens =
      some ⟨d.tokens, d.visibility, ⟨false, false, ⟨false, d.name, d.name_ne⟩, [], [], false⟩⟩ := by
  obtain ⟨body, hb⟩ : ∃ body, body = d.header ++ grouped .curly d.call := ⟨_, rfl⟩
  obtain ⟨tail, ht⟩ : ∃ tail, body = .word false "fn" :: tail := ⟨_, hb⟩
  have start : afterMark '#' (d.visibility ++ body) = none := by
    rw [ht]
    exact visible.no_attribute tail
  have signature : readSignature body = some (⟨false, false, ⟨false, d.name, d.name_ne⟩, [], [], false⟩,
      .opening .curly :: (d.call ++ [.closing .curly])) := by
    rw [hb]
    exact readSignature_header d _
  have inside : afterInside 0 (d.call ++ [.closing .curly]) = some [] :=
    (closed_call types [.closing .curly]).afterInside 0
  have read := visible.read tail
  rw [← ht] at read
  have default : (if place = .member then optionally (afterKeyword "default") body else body) = body := by
    rw [ht]
    cases place <;> rfl
  simp only [readItem, Descriptor.tokens, ← hb, afterAttributes_doc d start, Option.bind_eq_bind, Option.bind_some,
    read, consumed_append, default, signature, afterOpening, if_true, inside]
  rfl

end ScriptBridge.Attribute
