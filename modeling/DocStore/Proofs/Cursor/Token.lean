import DocStore.Cursor
import DocStore.Proofs.Json.RoundTrip
import DocStore.Proofs.Text.Base64Url

/-!
# Tokens read back

A cursor whose values are integral and do not nest too deep is the cursor of its own token
(`Cursor.decode_encode`), and the token consists of characters that need no escape in a URL
(`Cursor.token_reads_back`).
-/

namespace DocStore

open Json (chars stringChars memberChars)
open Json.Input (written EndsValue skipBlanks)

namespace Json.Reader

/-! ## Records -/

/-- A reader of fields gets from a state to another over some members. -/
inductive Reads {σ : Type} (field : FieldReader σ) : σ → List (String × Json) → σ → Prop
  | done (state : σ) : Reads field state [] state
  | next {name : String} {value : Json} {others : List (String × Json)} {state next final : σ}
    (read : ∀ more, EndsValue more →
      field name state (written (chars value) ++ more) = some (next, more))
    (rest : Reads field next others final) : Reads field state ((name, value) :: others) final

theorem written_field (name : String) (value : Json) (others : List (String × Json))
    (rest : Input) :
    written (stringChars name ++ ':' :: (chars value ++ memberChars others)) ++ rest =
      some '"' :: (written (name.toList.flatMap escapeChar) ++ some '"' :: some ':' ::
        (written (chars value) ++ (written (memberChars others) ++ rest))) := by
  rw [Input.written_append, List.append_assoc, written_stringChars]
  simp

/-- Reading a field goes on behind the comma after its value, or ends with the brace. -/
theorem fields_written {σ : Type} {field : FieldReader σ} {state next : σ} {name : String}
    {value : Json} (read : ∀ more, EndsValue more →
      field name state (written (chars value) ++ more) = some (next, more))
    (others : List (String × Json)) (fuel : Nat) (rest : Input) :
    fields field (fuel + 1) state
      (written (stringChars name ++ ':' :: (chars value ++ memberChars others)) ++ rest) =
      match others with
      | [] => some (next, rest)
      | (following, inner) :: others => fields field fuel next
        (written (stringChars following ++ ':' :: (chars inner ++ memberChars others)) ++ rest) := by
  have head := read _ (endsValue_memberChars others rest)
  have quote : ∀ more, skipBlanks (some '"' :: more) = some '"' :: more := fun _ => rfl
  have colon : ∀ more, skipBlanks (some ':' :: more) = some ':' :: more := fun _ => rfl
  rw [written_field, fields, quote]
  simp only [string?_written, Option.bind_eq_bind, Option.bind_some, colon, head]
  cases others with
  | nil => rfl
  | cons second others => rfl

theorem fields_memberChars {σ : Type} {field : FieldReader σ} {state final : σ} {name : String}
    {value : Json} {others : List (String × Json)}
    (reads : Reads field state ((name, value) :: others) final) {fuel : Nat}
    (enough : others.length < fuel) (rest : Input) :
    fields field fuel state
      (written (stringChars name ++ ':' :: (chars value ++ memberChars others)) ++ rest) =
      some (final, rest) := by
  induction others generalizing name value state fuel with
  | nil =>
    obtain ⟨extra, rfl⟩ := Nat.exists_eq_add_of_lt enough
    cases reads with
    | next read last =>
      cases last
      exact fields_written read [] _ rest
  | cons second others ih =>
    obtain ⟨extra, rfl⟩ := Nat.exists_eq_add_of_lt enough
    obtain ⟨following, inner⟩ := second
    cases reads with
    | next read last =>
      rw [fields_written read]
      exact ih last (show others.length < others.length + 1 + extra by omega)

/-- An object is read as a record, field by field. -/
theorem record_written {σ : Type} {field : FieldReader σ} {state final : σ}
    {members : List (String × Json)} (reads : Reads field state members final) (rest : Input) :
    ∃ more, written (chars (.obj members)) ++ rest = some '\x7b' :: more ∧
      record field state more = some (final, rest) := by
  cases members with
  | nil =>
    cases reads
    exact ⟨some '\x7d' :: rest, rfl, by simp [record, skipBlanks]⟩
  | cons first others =>
    obtain ⟨name, value⟩ := first
    refine ⟨_, by rw [chars, Input.written_cons, List.cons_append], ?_⟩
    have enough := length_lt_members name value others rest
    have found := fields_memberChars reads enough rest
    rw [record]
    rw [stringChars] at found ⊢
    simpa [skipBlanks, -Input.written_append, -List.append_assoc] using found

end Json.Reader

namespace Cursor

open Json.Reader (Reads)

/-- A value that tokens can carry. -/
def Portable (value : Json) : Prop :=
  Json.Integral Json.Fits64 value ∧ Json.Ordered value ∧ Json.depth value ≤ valueDepth

instance : DecidablePred Portable := fun value =>
  inferInstanceAs (Decidable (Json.Integral Json.Fits64 value ∧ Json.Ordered value ∧
    Json.depth value ≤ valueDepth))

theorem readField_nonce (nonce : String) (last : Option (Dict Json)) (more : Json.Input) :
    readField nonceField (none, last) (written (chars (.str nonce)) ++ more) =
      some ((some nonce, last), more) := by
  have read : Json.Reader.stringValue? (written (chars (.str nonce)) ++ more) =
      some (nonce, more) := by
    rw [chars, Json.Reader.written_stringChars, Json.Reader.stringValue?]
    simp [skipBlanks, Json.Reader.string?_written]
  simp [readField, read]

theorem readField_last (nonce : Option String) {last : Dict Json}
    (portable : ∀ entry ∈ last.entries, Portable entry.2) (more : Json.Input) :
    readField lastField (nonce, none) (written (chars (.obj last.entries)) ++ more) =
      some ((nonce, some last), more) := by
  have inside : ∀ entry ∈ last.entries,
      Json.Reader.Undoes (Json.Reader.value valueDepth) entry.2 := by
    intro entry member
    obtain ⟨integral, ordered, deep⟩ := portable entry member
    exact Json.Reader.value_chars integral ordered deep
  obtain ⟨rest, shape, found⟩ := Json.Reader.object_written inside more
  have read : Json.Reader.objectValue? valueDepth (written (chars (.obj last.entries)) ++ more) =
      some (last.entries, more) := by
    rw [shape, Json.Reader.objectValue?]
    simp [skipBlanks, found]
  have other : lastField ≠ nonceField := by decide
  simp [readField, other, read, Dict.ofList_entries]

/-- The members of a token are read one after the other. -/
theorem reads_tokenMembers {cursor : Cursor}
    (portable : ∀ entry ∈ cursor.last.entries, Portable entry.2) :
    ∃ nonce last, Reads readField (none, none) cursor.tokenMembers (nonce, last) ∧
      nonce.getD "" = cursor.nonce ∧ last.getD Dict.empty = cursor.last := by
  have lastly : ∀ nonce : Option String, ∃ last,
      Reads readField (nonce, none)
        (if cursor.last.isEmpty then [] else [(lastField, .obj cursor.last.entries)])
        (nonce, last) ∧ last.getD Dict.empty = cursor.last := by
    intro nonce
    split
    · rename_i empty
      refine ⟨none, .done _, Dict.ext fun name => ?_⟩
      exact ((Dict.isEmpty_iff cursor.last).1 empty name).symm
    · exact ⟨some cursor.last, .next (fun more _ => readField_last nonce portable more) (.done _),
        rfl⟩
  unfold tokenMembers
  split
  · rename_i empty
    obtain ⟨last, reads, same⟩ := lastly none
    exact ⟨none, last, reads, (String.isEmpty_iff.1 empty).symm, same⟩
  · obtain ⟨last, reads, same⟩ := lastly (some cursor.nonce)
    exact ⟨some cursor.nonce, last, .next (fun more _ => readField_nonce _ _ more) reads, rfl, same⟩

theorem readToken_written {cursor : Cursor}
    (portable : ∀ entry ∈ cursor.last.entries, Portable entry.2) :
    readToken (written (chars (.obj cursor.tokenMembers))) = some (some cursor, []) := by
  obtain ⟨nonce, last, reads, sameNonce, sameLast⟩ := reads_tokenMembers portable
  obtain ⟨more, shape, found⟩ := Json.Reader.record_written reads []
  rw [List.append_nil] at shape
  rw [shape, readToken]
  simp [skipBlanks, found, sameNonce, sameLast]

/-- Reading undoes writing. -/
theorem decode_encode {cursor : Cursor}
    (portable : ∀ entry ∈ cursor.last.entries, Portable entry.2) :
    decode cursor.encode = .ok (some cursor) := by
  generalize textEq : (Json.obj cursor.tokenMembers).render = text
  have letters : cursor.encode.toList = Text.Base64Url.encode (Text.Utf8.encode text) := by
    rw [encode, textEq, String.toList_ofList]
  have back : Text.Utf8.decode (Text.Utf8.encode text) =
      written (chars (.obj cursor.tokenMembers)) := by
    rw [Text.Utf8.decode_encode, ← textEq, Json.render, String.toList_ofList]
    rfl
  have something : cursor.encode.isEmpty = false := by
    refine Bool.eq_false_iff.2 fun empty => ?_
    have noLetters : Text.Base64Url.encode (Text.Utf8.encode text) = [] := by
      rw [← letters, String.isEmpty_iff.1 empty]
      rfl
    have noBytes : Text.Utf8.encode text = [] :=
      Decidable.byContradiction fun some => Text.Base64Url.encode_ne_nil some noLetters
    have noChars : Text.Utf8.decode [] = [] := Text.Utf8.decode_encode ""
    have read := readToken_written portable
    rw [← back, noBytes, noChars] at read
    cases read
  have done : Json.Reader.complete (readToken (Text.Utf8.decode (Text.Utf8.encode text))) =
      some (some cursor) := by
    rw [back, readToken_written portable]
    rfl
  rw [decode, something, letters, Text.Base64Url.decode_encode]
  simp only [done]
  rfl

/-- A cursor that tokens can carry has a token in the alphabet of base64url, from which it is
read back. -/
theorem token_reads_back {cursor : Cursor}
    (portable : ∀ entry ∈ cursor.last.entries, Portable entry.2) :
    (∀ c ∈ cursor.encode.toList, Text.Base64Url.InAlphabet c) ∧
      decode cursor.encode = .ok (some cursor) := by
  refine ⟨?_, decode_encode portable⟩
  rw [encode, String.toList_ofList]
  exact Text.Base64Url.inAlphabet_encode _

/-- Values at the limits: the deepest nesting, the least and the greatest integer, a null, and
texts with a quote, control characters and characters beyond the first plane. -/
theorem token_reads_back_at_limits :
    let deepest := Nat.repeat (fun inner => Json.arr [inner]) 124 (.obj [("\\", .str "\u0000\r")])
    let cursor : Cursor := ⟨"nonce \"😀\"", Dict.ofList
      [("", .null), ("n\u007f", .arr [.int (-2 ^ 63), .int (2 ^ 64 - 1)]), ("\n", deepest)]⟩
    (∀ entry ∈ cursor.last.entries, Portable entry.2) ∧
      (∀ c ∈ cursor.encode.toList, Text.Base64Url.InAlphabet c) ∧
      decode cursor.encode = .ok (some cursor) := by
  intro deepest cursor
  have portable : ∀ entry ∈ cursor.last.entries, Portable entry.2 := by decide +kernel
  exact ⟨portable, token_reads_back portable⟩

end Cursor
end DocStore
