import ScriptBridge.Builder

/-! A stock of native functions and classes that hosts can register. -/
namespace ScriptBridge.HostLibrary

open Number (Single)

/-- A temperature: one float under a type of its own, which the host has in the module `home`. -/
def celsius (home : String) : HostType := .floatWrapper (home ++ "::Celsius")

def handle (home : String) : HostType := .token (home ++ "::Handle")

abbrev textClass : HostClass := ⟨"Text", .string⟩

abbrev counterClass : HostClass := ⟨"Counter", .int⟩

abbrev bodyClass : HostClass := ⟨"Body", .vector⟩

abbrev markerClass : HostClass := ⟨"Marker", .unit⟩

def classes : List HostClass := [textClass, counterClass, bodyClass, markerClass]

def class? (name : String) : Option HostClass := classes.find? (·.name = name)

def sumArguments : (n : Nat) → Arguments (List.replicate n .int) → Int32
  | 0, _ => 0
  | n + 1, (a, rest) => a + sumArguments n rest

def sum (n : Nat) : HostFunction := ⟨List.replicate n .int, .int, sumArguments n⟩

def oneHalf : Single := .ofQuotient false Number.unitsPerOne 2

def scaled (v : Vector3) (factor : Single) : Vector3 := ⟨v.x.mul factor, v.y.mul factor, v.z.mul factor⟩

def moved (v : Vector3) (dx dy dz : Single) : Vector3 := ⟨v.x.add dx, v.y.add dy, v.z.add dz⟩

def utf8Length (s : String) : Int32 := .ofNat s.utf8ByteSize

def functions (home : String) : List (String × HostFunction) := [
  ("tick", ⟨[], .unit, fun _ => ()⟩),
  ("hello", ⟨[], .literal, fun _ => "hello"⟩),
  ("seven", ⟨[], .int, fun _ => 7⟩),
  ("neg", ⟨[.int], .int, fun (a, ()) => -a⟩),
  ("add", ⟨[.int, .int], .int, fun (a, b, ()) => a + b⟩),
  ("half", ⟨[.float], .float, fun (a, ()) => a.mul oneHalf⟩),
  ("drop", ⟨[.float], .unit, fun _ => ()⟩),
  ("positive", ⟨[.float], .bool, fun (a, ()) => a.isPositive⟩),
  ("not", ⟨[.bool], .bool, fun (a, ()) => !a⟩),
  ("echo_string", ⟨[.string], .string, fun (a, ()) => a⟩),
  ("join", ⟨[.string, .string], .string, fun (a, b, ()) => a ++ b⟩),
  ("echo_object", ⟨[.object], .object, fun (a, ()) => a⟩),
  ("next_object", ⟨[.object], .object, fun (a, ()) => ⟨a.number + 1⟩⟩),
  ("no_object", ⟨[.int], .object, fun _ => .none⟩),
  ("make_vec", ⟨[.float, .float, .float], .vector, fun (x, y, z, ()) => ⟨x, y, z⟩⟩),
  ("scale", ⟨[.vector, .float], .vector, fun (v, a, ()) => scaled v a⟩),
  ("mix", ⟨[.int, .float, .bool, .string, .object, .vector], .string, fun (i, x, b, s, o, v, ()) =>
    "|".intercalate ([.int i, .float x, .bool b, .string s, .object o, .vector v].map SlotValue.text)⟩),
  ("echo_any", ⟨[.value], .value, fun (v, ()) => v⟩),
  ("pick", ⟨[.bool, .value, .value], .value, fun (b, u, v, ()) => if b then u else v⟩),
  ("warm", ⟨[celsius home], .float, fun (a, ()) => a⟩),
  ("heat", ⟨[.float], celsius home, fun (a, ()) => a⟩),
  ("eat_unit", ⟨[.unit], .int, fun _ => 1⟩)
] ++ (List.range 10).map fun i => ("sum" ++ toString (i + 3), sum (i + 3))

def function? (home name : String) : Option HostFunction := (functions home).lookup name

def textConcat : HostMethod := ⟨textClass, [.string], .string, .shared fun s (a, ()) => s ++ a⟩

def textAppend : HostMethod :=
  ⟨textClass, [.string], .int, .exclusive fun s (a, ()) => (utf8Length (s ++ a), s ++ a)⟩

def textLength : HostMethod := ⟨textClass, [], .int, .shared fun s _ => utf8Length s⟩

def methods : List (String × HostMethod) := [
  ("text.concat", textConcat),
  ("text.append", textAppend),
  ("text.length", textLength),
  ("text.set", ⟨textClass, [.string], .unit, .exclusive fun _ (a, ()) => ((), a)⟩),
  ("text.between", ⟨textClass, [.string, .string], .string, .shared fun s (a, b, ()) => a ++ s ++ b⟩),
  ("counter.get", ⟨counterClass, [], .int, .shared fun n _ => n⟩),
  ("counter.add", ⟨counterClass, [.int], .int, .exclusive fun n (a, ()) => (n + a, n + a)⟩),
  ("counter.reset", ⟨counterClass, [], .unit, .exclusive fun _ _ => ((), 0)⟩),
  ("counter.add_all",
    ⟨counterClass,
      [.int, .int, .int, .int, .int, .int, .int, .int, .int, .int, .int, .string], .string,
      .exclusive fun n (a, b, c, d, e, f, g, h, i, j, k, label, ()) =>
        let total := n + a + b + c + d + e + f + g + h + i + j + k
        (label ++ "=" ++ intText total, total)⟩),
  ("body.position", ⟨bodyClass, [], .vector, .shared fun v _ => v⟩),
  ("body.move", ⟨bodyClass, [.float, .float, .float], .vector,
    .exclusive fun v (x, y, z, ()) => (moved v x y z, moved v x y z)⟩),
  ("marker.ping", ⟨markerClass, [], .bool, .shared fun _ _ => true⟩)
]

def method? (name : String) : Option HostMethod := methods.lookup name

def attributeBindings (P : Type) (home : String) : List (String × Binding P) := [
  ("Add", .function "Add" ⟨[.int, .int], .int, fun (a, b, ()) => a + b⟩),
  ("shout", .function "shout" ⟨[.string], .string, fun (s, ()) => s.map Char.toUpper⟩),
  ("ToKelvin", .function "ToKelvin" ⟨[.float], celsius home, fun (a, ()) => a⟩),
  ("Text::Concat", .method "Concat" textConcat),
  ("Text::append", .method "append" textAppend),
  ("Sequence::Length", .methodIn "Sequence" "Length" textLength)
]

def attributeBinding? (P : Type) (home name : String) : Option (Binding P) := (attributeBindings P home).lookup name

end ScriptBridge.HostLibrary
