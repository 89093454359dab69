import DocStore.Json.Reader

/-!
# Reading records

An object read field by field into a state: each field's reader takes the value from
the input and refuses what does not fit.
-/

namespace DocStore
namespace Json
namespace Reader

open Input (skipBlanks)

/-- Reads the value of a named field into a state. -/
abbrev FieldReader (σ : Type) := String → σ → Input → Option (σ × Input)

/-- Reads fields up to the closing brace; the fuel bounds their number. -/
def fields {σ : Type} (field : FieldReader σ) : Nat → σ → Input → Option (σ × Input)
  | 0, _, _ => none
  | fuel + 1, state, input =>
    match skipBlanks input with
    | some '"' :: rest => do
      let (name, rest) ← string? rest
      match skipBlanks rest with
      | some ':' :: rest => do
        let (state, rest) ← field name state rest
        match skipBlanks rest with
        | some ',' :: rest => fields field fuel state rest
        | some '\x7d' :: rest => some (state, rest)
        | _ => none
      | _ => none
    | _ => none

/-- Reads a record after its opening brace. -/
def record {σ : Type} (field : FieldReader σ) (start : σ) (input : Input) :
    Option (σ × Input) :=
  match skipBlanks input with
  | some '\x7d' :: rest => some (start, rest)
  | rest => fields field rest.length start rest

/-- Reads a string value. -/
def stringValue? (input : Input) : Option (String × Input) :=
  match skipBlanks input with
  | some '"' :: rest => string? rest
  | _ => none

/-- Reads an object value whose members nest at most so deep. -/
def objectValue? (depth : Nat) (input : Input) : Option (List (String × Json) × Input) :=
  match skipBlanks input with
  | some '\x7b' :: rest => object (value depth) rest
  | _ => none

/-- Reads what a closing bracket follows. -/
def closed {α : Type} (found : Option (α × Input)) : Option (α × Input) :=
  match found with
  | some (result, rest) =>
    match skipBlanks rest with
    | some ']' :: rest => some (result, rest)
    | _ => none
  | none => none

/-- Reads a whole input that nothing but blanks may follow. -/
def complete {α : Type} (found : Option (α × Input)) : Option α :=
  match found with
  | some (result, rest) => if Input.isDone rest then some result else none
  | none => none

end Reader
end Json
end DocStore
