import Introspect.Binding.Output

/-!
# Slots and statements

What an argument slot is made from, and what a generated function does around its call: it copies
texts, registers closures, fills the out block, and afterwards writes references back and gives up
what it took.
-/

namespace Introspect.Binding

/-- What an argument slot is made from. -/
inductive SlotValue
  | make (cell : Cell) (value : String)
  | unmapped (what : String)
deriving Repr, DecidableEq

/-- The expression; a value without a mapping is empty and leaves a marker. -/
def SlotValue.text : SlotValue → String
  | .make cell value => "gi::Argument::from_" ++ cell.name ++ "(" ++ value ++ ")"
  | .unmapped what => "gi::Argument::ZERO" ++ todoMark what

/-- A statement of a generated function around its call. -/
inductive Statement
  /-- Copies a text into native memory. -/
  | copyText (var convert source : String)
  /-- Releases the copy of a text. -/
  | free (var : String)
  /-- Registers a closure and keeps its handle. -/
  | register (handle closure scope : String)
  | unregister (handle : String)
  /-- Fills a slot of the out block. -/
  | fill (place : String) (value : SlotValue)
  /-- Writes a value back through a reference. -/
  | writeBack (var : String) (value : SlotReading)
  | remark (text : String)
deriving Repr, DecidableEq

/-- The line of the statement. -/
def Statement.text : Statement → String
  | .copyText var convert source => "let " ++ var ++ " = " ++ convert ++ "(" ++ source ++ ");"
  | .free var => "unsafe " ++ braced ("gi::free(" ++ var ++ ")") ++ ";"
  | .register handle closure scope =>
      "let " ++ handle ++ " = ctx.closures.register(" ++ closure ++ ", " ++ scope ++ ");"
  | .unregister handle => "ctx.closures.unregister(" ++ handle ++ ");"
  | .fill place value => place ++ " = " ++ value.text ++ ";"
  | .writeBack var value => "*" ++ var ++ " = " ++ value.expression ++ ";"
  | .remark text => "// " ++ text

end Introspect.Binding
