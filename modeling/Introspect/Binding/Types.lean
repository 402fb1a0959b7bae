import Introspect.Binding.Function

/-!
# Generated types and constants

A container becomes a struct around a pointer, with the conversions its kind allows; an enumeration
or a set of flags becomes a struct around the native integer, with one constant for each member;
and a constant becomes one itself, when its value has a literal.
-/

namespace Introspect.Binding

open Source (Step Block)

/-- A group of lines between an opening line and its closing brace. -/
def group (head : String) (body : List Step) : List Step :=
  [Step.opening (head ++ " \x7b")] ++ body ++ [Step.closing "\x7d"]

/-- The runtime type of a type, under the number of its call site. -/
def getTypeSteps (host native : String) (id : UInt32) : List Step :=
  group ("impl " ++ host) <|
    group "pub fn get_type() -> gi::GType" <|
      group "match CONTEXT.get()" <|
        [Step.line ("Ok(ctx) => ctx.invokers.gtype(" ++ toString id ++ ", " ++ Text.quoted native ++
          "),")] ++
        group "Err(err) =>"
          [Step.line "log::warn!(\"\x7b\x7d\", err);",
            Step.line "gi::GType::INVALID"]

/-- A blank line and the runtime type, for a type that has a number for it. -/
def getTypeTail (host native : String) : Option UInt32 → List Step
  | some id => Step.line "" :: getTypeSteps host native id
  | none => []

/-- The attribute of what is out of date. -/
def deprecation (deprecated : Bool) : List Step :=
  if deprecated then [Step.line "#[deprecated]"] else []

namespace Container

/-- The parent, when it is an object of this namespace. -/
def localParent? (s : Scope) (c : Introspect.Container) : Option String :=
  c.parent.filter fun parent => s.space.kindOf? parent = some .object

/-- The conversions of an object. -/
def objectSteps (s : Scope) (c : Introspect.Container) : List Step :=
  let name := c.name
  [Step.line ""] ++
  group ("impl gi::ObjectWrapper for " ++ name)
    (group ("fn as_ptr(&self) -> " ++ pointerType) [Step.line "self.p"] ++
      [Step.line ""] ++
      group "fn as_any(&self) -> &dyn std::any::Any" [Step.line "self"] ++
      [Step.line ""] ++
      group "fn type_name(&self) -> &'static str" [Step.line (Text.quoted name)]) ++
  [Step.line ""] ++
  group ("impl " ++ name)
    (group ("pub fn wrap_object(p: " ++ pointerType ++ ") -> gi::DynObject")
      [Step.line ("Box::new(" ++ name ++ " " ++ braced "p" ++ ")")]) ++
  match localParent? s c with
  | some parent =>
      [Step.line ""] ++
      group ("impl From<" ++ name ++ "> for " ++ parent)
        [Step.line ("fn from(v: " ++ name ++ ") -> Self \x7b"),
          Step.line ("    " ++ parent ++ " " ++ braced "p: v.p"),
          Step.line "\x7d"]
  | none => []

/-- The wrapper of a container. -/
def steps (s : Scope) (c : Introspect.Container) (kind : ContainerKind) (getType : Option UInt32) :
    List Step :=
  let name := c.name
  [Step.line ("/// " ++ kind.symbolKind.label ++ " `" ++ name ++ "`")] ++
  deprecation c.deprecated ++
  [Step.line "#[derive(Debug, Clone, Copy, PartialEq, Eq)]"] ++
  group ("pub struct " ++ name) [Step.line ("pub p: " ++ pointerType ++ ",")] ++
  [Step.line ""] ++
  group ("impl Default for " ++ name)
    (group "fn default() -> Self" [Step.line (name ++ " " ++ braced "p: std::ptr::null_mut()")]) ++
  [Step.line ""] ++
  group ("impl gi::Wrapper for " ++ name)
    (group ("fn from_ptr(p: " ++ pointerType ++ ") -> Self")
        [Step.line (name ++ " " ++ braced "p")] ++
      [Step.line ""] ++
      group ("fn as_ptr(&self) -> " ++ pointerType) [Step.line "self.p"]) ++
  (if kind = .object then objectSteps s c else []) ++
  getTypeTail name name getType

end Container

namespace Enumeration

/-- What sets flags apart from an enumeration in the generated source. -/
structure Form where
  host : String
  repr : String
  label : String

/-- How the type of an enumeration or of flags is written. -/
def form (isFlags : Bool) (name : String) : Form :=
  if isFlags then ⟨Naming.flagsType name, "u32", "Flags"⟩
  else ⟨Naming.enumType name, "i32", "Enum"⟩

/-- The native integer of a member: its low 32 bits, signed in an enumeration. -/
def memberBits (isFlags : Bool) (value : Int) : Int :=
  if isFlags then value % UInt32.size else Int.bmod value UInt32.size

/-- The members with the names of their constants; a name that was there before is left out. -/
def constants (seen : List String) : List EnumMember → List (String × Int)
  | [] => []
  | m :: rest =>
      let name := Naming.memberConst m.name
      if seen.contains name then constants seen rest
      else (name, m.value) :: constants (name :: seen) rest

/-- The lines of an enumeration or of flags: the type, its members and what it can do. -/
def steps (e : Introspect.Enumeration) (isFlags : Bool) (getType : Option UInt32) : List Step :=
  let f := form isFlags e.name
  let members := (constants [] e.values).map fun (name, value) =>
    Step.line ("pub const " ++ name ++ ": " ++ f.host ++ " = " ++ f.host ++ "(" ++
      toString (memberBits isFlags value) ++ ");")
  [Step.line ("/// " ++ f.label ++ " `" ++ e.name ++ "`")] ++
  deprecation e.deprecated ++
  [Step.line "#[derive(Debug, Clone, Copy, PartialEq, Eq, Default)]",
    Step.line ("pub struct " ++ f.host ++ "(pub " ++ f.repr ++ ");"),
    Step.line ""] ++
  group ("impl " ++ f.host)
    (members ++
      (if e.values.isEmpty then [] else [Step.line ""]) ++
      [Step.line ("pub fn from_bits(bits: " ++ f.repr ++ ") -> Self \x7b"),
        Step.line ("    " ++ f.host ++ "(bits)"),
        Step.line "\x7d",
        Step.line "",
        Step.line ("pub fn bits(self) -> " ++ f.repr ++ " \x7b"),
        Step.line "    self.0",
        Step.line "\x7d"] ++
      if isFlags then
        [Step.line "",
          Step.line "pub fn contains(self, other: Self) -> bool \x7b",
          Step.line "    self.0 & other.0 == other.0",
          Step.line "\x7d"]
      else []) ++
  (if isFlags then
    [Step.line ""] ++
    group ("impl std::ops::BitOr for " ++ f.host)
      [Step.line ("type Output = " ++ f.host ++ ";"),
        Step.line "",
        Step.line ("fn bitor(self, rhs: " ++ f.host ++ ") -> " ++ f.host ++ " \x7b"),
        Step.line ("    " ++ f.host ++ "(self.0 | rhs.0)"),
        Step.line "\x7d"]
  else []) ++
  getTypeTail f.host e.name getType

end Enumeration

namespace Constant

/-- A floating-point literal keeps its point, and has an exponent below `1e-4` and from `1e16`. -/
def literalStyle : Decimal.Style := ⟨.up, -4, 15, false⟩

/-- The type and the literal of a value. -/
def literal? : ConstantValue → Option (String × String)
  | .bool b => some ("bool", if b then "true" else "false")
  | .int i => some ("i64", toString i)
  | .float x => if x.isNaN || x.isInfinite then none else some ("f64", x.text literalStyle)
  | .text s => some ("&str", Text.quoted s)

/-- The line of a constant, or a marker when its value has no literal. -/
def steps (c : Introspect.Constant) : List Step :=
  match c.value.bind literal? with
  | some (type, literal) =>
      [Step.line ("pub const " ++ Naming.itemName c.name ++ ": " ++ type ++ " = " ++ literal ++
        ";")]
  | none => [Step.line ("// TODO constant " ++ c.name)]

end Constant

end Introspect.Binding
