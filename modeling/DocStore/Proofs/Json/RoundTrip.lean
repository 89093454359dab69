import DocStore.Proofs.Dict
import DocStore.Proofs.Json.Integral
import DocStore.Proofs.Json.Numeral

/-!
# Reading undoes writing

The text of a value without floats, whose integers have 64 bits, reads back as the value
(`Reader.value_chars`), and so two such values with the same text are the same
(`render_inj`).
-/

namespace DocStore
namespace Json
namespace Reader

open Input (skipBlanks written EndsValue)

/-! ## Strings -/

/-- A character is read back, whatever comes after it. -/
def ReadsBack (c : Char) (element : Element) : Prop :=
  (∀ rest, elements (written (escapeChar c) ++ rest) =
    (elements rest).map fun found => (element :: found.1, found.2)) ∧
  ∀ more, characters (element :: more) = (characters more).map (c :: ·)

theorem characters_unit {code : Nat} (low : code < 0xD800) (more : List Element) :
    characters (.unit code :: more) = (characters more).map (Char.ofNat code :: ·) := by
  have notHigh : isHighSurrogate code = false := by
    simp [isHighSurrogate]
    omega
  have notLow : isLowSurrogate code = false := by
    simp [isLowSurrogate]
    omega
  cases more with
  | nil => simp [characters, notHigh, notLow]
  | cons element rest => cases element <;> simp [characters, notHigh, notLow]

theorem hexDigit?_lowerHexDigit {n : Nat} (small : n < 16) :
    Text.hexDigit? (Text.lowerHexDigit n) = some n := by
  have all : ∀ n : Fin 16, Text.hexDigit? (Text.lowerHexDigit n) = some n.val := by decide
  exact all ⟨n, small⟩

theorem fourHex?_control {code : Nat} (control : code < 0x20) :
    fourHex? '0' '0' (Text.lowerHexDigit (code / 16)) (Text.lowerHexDigit (code % 16)) =
      some code := by
  have zero : Text.hexDigit? '0' = some 0 := by decide
  have sum : (0 * 16 + 0) * 16 + code / 16 = code / 16 := by omega
  rw [fourHex?, zero, hexDigit?_lowerHexDigit (by omega), hexDigit?_lowerHexDigit (by omega)]
  simp only [Option.bind_eq_bind, Option.bind_some, sum, Option.some.injEq]
  omega

/-- A character with a short escape. -/
theorem readsBack_short {c short : Char} (written : escapeChar c = ['\\', short])
    (notUnit : short ≠ 'u') (back : escape? short = some c) :
    ReadsBack c (.plain (some c)) := by
  refine ⟨fun rest => ?_, fun more => rfl⟩
  rw [written]
  cases others : elements rest <;>
    simp [elements, notUnit, back, others]

theorem readsBack_control {c : Char} (control : c.toNat < 0x20)
    (written : escapeChar c = ['\\', 'u', '0', '0', Text.lowerHexDigit (c.toNat / 16),
      Text.lowerHexDigit (c.toNat % 16)]) : ReadsBack c (.unit c.toNat) := by
  refine ⟨fun rest => ?_, fun more => ?_⟩
  · rw [written]
    cases others : elements rest <;>
      simp [elements, fourHex?_control control, others]
  · rw [characters_unit (by omega), Char.ofNat_toNat]

theorem readsBack_plain {c : Char} (printable : ¬c.toNat < 0x20) (notQuote : c ≠ '"')
    (notBackslash : c ≠ '\\') (written : escapeChar c = [c]) :
    ReadsBack c (.plain (some c)) := by
  refine ⟨fun rest => ?_, fun more => rfl⟩
  rw [written]
  cases others : elements rest <;>
    simp [elements, notBackslash, printable, others]

theorem exists_readsBack (c : Char) : ∃ element, ReadsBack c element := by
  by_cases quote : c = '"'
  · subst quote
    exact ⟨_, readsBack_short rfl (by decide) rfl⟩
  by_cases backslash : c = '\\'
  · subst backslash
    exact ⟨_, readsBack_short rfl (by decide) rfl⟩
  by_cases backspace : c = '\x08'
  · subst backspace
    exact ⟨_, readsBack_short rfl (by decide) rfl⟩
  by_cases formFeed : c = '\x0c'
  · subst formFeed
    exact ⟨_, readsBack_short rfl (by decide) rfl⟩
  by_cases lineFeed : c = '\n'
  · subst lineFeed
    exact ⟨_, readsBack_short rfl (by decide) rfl⟩
  by_cases carriageReturn : c = '\r'
  · subst carriageReturn
    exact ⟨_, readsBack_short rfl (by decide) rfl⟩
  by_cases tab : c = '\t'
  · subst tab
    exact ⟨_, readsBack_short rfl (by decide) rfl⟩
  have rest : escapeChar c = if c.toNat < 0x20 then
      ['\\', 'u', '0', '0', Text.lowerHexDigit (c.toNat / 16), Text.lowerHexDigit (c.toNat % 16)]
    else [c] := by
    simp [escapeChar, quote, backslash, backspace, formFeed, lineFeed, carriageReturn, tab]
  by_cases control : c.toNat < 0x20
  · exact ⟨_, readsBack_control control (by rw [rest, if_pos control])⟩
  · exact ⟨_, readsBack_plain control quote backslash (by rw [rest, if_neg control])⟩

/-- A string is read back after its opening quote. -/
theorem string?_written (text : String) (rest : Input) :
    string? (written (text.toList.flatMap escapeChar) ++ some '"' :: rest) = some (text, rest) := by
  have pieces : ∀ chars : List Char, ∃ found : List Element,
      elements (written (chars.flatMap escapeChar) ++ some '"' :: rest) = some (found, rest) ∧
        characters found = some chars := by
    intro chars
    induction chars with
    | nil => exact ⟨[], by simp [elements], rfl⟩
    | cons c others ih =>
      obtain ⟨found, read, back⟩ := ih
      obtain ⟨element, first, character⟩ := exists_readsBack c
      refine ⟨element :: found, ?_, ?_⟩
      · rw [List.flatMap_cons, Input.written_append, List.append_assoc, first, read]
        rfl
      · rw [character, back]
        rfl
  obtain ⟨found, read, back⟩ := pieces text.toList
  simp [string?, read, back]

theorem written_stringChars (text : String) (rest : Input) :
    written (stringChars text) ++ rest =
      some '"' :: (written (text.toList.flatMap escapeChar) ++ some '"' :: rest) := by
  simp [stringChars]

/-! ## The first character of a value -/

/-- A character that a value may start with. -/
def StartsValue (c : Char) : Prop :=
  c ≠ ' ' ∧ c ≠ '\n' ∧ c ≠ '\t' ∧ c ≠ '\r' ∧ c ≠ ']'

theorem skipBlanks_of_ne {c : Char} (notSpace : c ≠ ' ') (notLineFeed : c ≠ '\n')
    (notTab : c ≠ '\t') (notReturn : c ≠ '\r') (rest : Input) :
    skipBlanks (some c :: rest) = some c :: rest := by
  simp [skipBlanks, notSpace, notLineFeed, notTab, notReturn]

theorem startsValue_of_numeral {c : Char} (start : c = '-' ∨ c.isDigit = true) :
    StartsValue c := by
  rcases start with rfl | digit
  · exact ⟨by decide, by decide, by decide, by decide, by decide⟩
  · refine ⟨?_, ?_, ?_, ?_, ?_⟩ <;>
    · rintro rfl
      exact absurd digit (by decide)

theorem chars_eq_cons {fits : Int → Prop} {value : Json} (integral : Integral fits value) :
    ∃ c rest, chars value = c :: rest ∧ StartsValue c := by
  have fixed : ∀ c ∈ ['n', 't', 'f', '"', '[', '\x7b'], StartsValue c := by
    simp [StartsValue]
  match value, integral with
  | .null, _ => exact ⟨'n', _, rfl, fixed _ (by simp)⟩
  | .bool true, _ => exact ⟨'t', _, rfl, fixed _ (by simp)⟩
  | .bool false, _ => exact ⟨'f', _, rfl, fixed _ (by simp)⟩
  | .int n, _ =>
    obtain ⟨c, rest, shape, start⟩ := showInt_eq_cons n
    exact ⟨c, rest, shape, startsValue_of_numeral start⟩
  | .str text, _ => exact ⟨'"', _, rfl, fixed _ (by simp)⟩
  | .arr [], _ => exact ⟨'[', _, rfl, fixed _ (by simp)⟩
  | .arr (_ :: _), _ => exact ⟨'[', _, rfl, fixed _ (by simp)⟩
  | .obj [], _ => exact ⟨'\x7b', _, rfl, fixed _ (by simp)⟩
  | .obj (_ :: _), _ => exact ⟨'\x7b', _, rfl, fixed _ (by simp)⟩

/-! ## Items and members -/

/-- A reader reads a value back, whatever may follow it. -/
def Undoes (reader : ValueReader) (value : Json) : Prop :=
  ∀ rest, EndsValue rest → reader (written (chars value) ++ rest) = some (value, rest)

theorem endsValue_itemChars (others : List Json) (rest : Input) :
    EndsValue (written (itemChars others) ++ rest) := by
  cases others with
  | nil => exact .inr (.inl rfl)
  | cons item others => exact .inl rfl

theorem endsValue_memberChars (others : List (String × Json)) (rest : Input) :
    EndsValue (written (memberChars others) ++ rest) := by
  cases others with
  | nil => exact .inr (.inr rfl)
  | cons member others => exact .inl rfl

theorem length_lt_itemChars (others : List Json) : others.length < (itemChars others).length := by
  induction others with
  | nil => decide
  | cons item others ih =>
    simp only [itemChars, List.length_cons, List.length_append]
    omega

theorem length_lt_memberChars (others : List (String × Json)) :
    others.length < (memberChars others).length := by
  induction others with
  | nil => decide
  | cons member others ih =>
    obtain ⟨name, value⟩ := member
    simp only [memberChars, List.length_cons, List.length_append]
    omega

theorem items_itemChars {item : ValueReader} {first : Json} {others : List Json}
    (reads : ∀ value ∈ first :: others, Undoes item value) {fuel : Nat}
    (enough : others.length < fuel) (rest : Input) :
    items item fuel (written (chars first ++ itemChars others) ++ rest) =
      some (first :: others, rest) := by
  induction others generalizing first fuel with
  | nil =>
    obtain ⟨extra, rfl⟩ := Nat.exists_eq_add_of_lt enough
    have head := reads first List.mem_cons_self _ (endsValue_itemChars [] rest)
    rw [Input.written_append, List.append_assoc, items, head]
    rfl
  | cons second others ih =>
    obtain ⟨extra, rfl⟩ := Nat.exists_eq_add_of_lt enough
    have head := reads first List.mem_cons_self _ (endsValue_itemChars (second :: others) rest)
    have tail := ih (fun value member => reads value (List.mem_cons_of_mem first member))
      (show others.length < others.length + 1 + extra by omega)
    rw [Input.written_append, List.append_assoc, items, head, itemChars, Input.written_cons,
      List.cons_append]
    simp [skipBlanks, tail, -Input.written_append, -List.append_assoc]

theorem member_written {reader : ValueReader} {value : Json} (reads : Undoes reader value)
    (name : String) {rest : Input} (ends : EndsValue rest) :
    member reader (written (stringChars name ++ ':' :: chars value) ++ rest) =
      some ((name, value), rest) := by
  have shape : written (stringChars name ++ ':' :: chars value) ++ rest =
      some '"' :: (written (name.toList.flatMap escapeChar) ++
        some '"' :: some ':' :: (written (chars value) ++ rest)) := by
    rw [Input.written_append, List.append_assoc, written_stringChars]
    rfl
  rw [shape, member]
  simp [skipBlanks, string?_written, reads rest ends]

theorem written_members (name : String) (value : Json) (others : List (String × Json))
    (rest : Input) :
    written (stringChars name ++ ':' :: (chars value ++ memberChars others)) ++ rest =
      written (stringChars name ++ ':' :: chars value) ++
        (written (memberChars others) ++ rest) := by
  simp

theorem members_memberChars {reader : ValueReader} {name : String} {value : Json}
    {others : List (String × Json)}
    (reads : ∀ member ∈ (name, value) :: others, Undoes reader member.2) {fuel : Nat}
    (enough : others.length < fuel) (rest : Input) :
    members reader fuel
      (written (stringChars name ++ ':' :: (chars value ++ memberChars others)) ++ rest) =
      some ((name, value) :: others, rest) := by
  induction others generalizing name value fuel with
  | nil =>
    obtain ⟨extra, rfl⟩ := Nat.exists_eq_add_of_lt enough
    have head := member_written (reads _ List.mem_cons_self) name (endsValue_memberChars [] rest)
    rw [written_members, members, head]
    rfl
  | cons second others ih =>
    obtain ⟨extra, rfl⟩ := Nat.exists_eq_add_of_lt enough
    obtain ⟨next, following⟩ := second
    have head := member_written (reads _ List.mem_cons_self) name
      (endsValue_memberChars ((next, following) :: others) rest)
    have tail := ih (fun member inside => reads member (List.mem_cons_of_mem _ inside))
      (show others.length < others.length + 1 + extra by omega)
    rw [written_members, members, head, memberChars, Input.written_cons, List.cons_append]
    simp [skipBlanks, tail, -Input.written_append, -List.append_assoc]

/-! ## Values -/

/-- What has no value inside reads back without a reader of inner values. -/
theorem valueWith_scalar (inner : Option ValueReader) {value : Json}
    (integral : Integral Fits64 value) (flat : depth value = 0) :
    Undoes (valueWith inner) value := by
  intro rest ends
  match value, integral, flat with
  | .null, _, _ => simp [chars, valueWith, skipBlanks, Input.after?]
  | .bool true, _, _ => simp [chars, valueWith, skipBlanks, Input.after?]
  | .bool false, _, _ => simp [chars, valueWith, skipBlanks, Input.after?]
  | .int n, fits, _ => exact valueWith_showInt inner fits.1 fits.2 ends
  | .str text, _, _ =>
    rw [chars, written_stringChars, valueWith]
    simp [skipBlanks, string?_written]

theorem valueWith_arr {inner : ValueReader} {items : List Json}
    (integral : IntegralItems Fits64 items) (reads : ∀ item ∈ items, Undoes inner item) :
    Undoes (valueWith (some inner)) (.arr items) := by
  intro rest _
  cases items with
  | nil => simp [chars, valueWith, skipBlanks, array]
  | cons first others =>
    obtain ⟨c, more, shape, notSpace, notLineFeed, notTab, notReturn, notClose⟩ :=
      chars_eq_cons integral.1
    have enough : others.length <
        (written (chars first ++ itemChars others) ++ rest).length := by
      have few := length_lt_itemChars others
      simp only [List.length_append, Input.length_written]
      omega
    have found := items_itemChars reads enough rest
    have front : written (chars first ++ itemChars others) ++ rest =
        some c :: (written (more ++ itemChars others) ++ rest) := by
      rw [shape]
      rfl
    have inside : array inner (written (chars first ++ itemChars others) ++ rest) =
        some (first :: others, rest) := by
      rw [array, front, skipBlanks_of_ne notSpace notLineFeed notTab notReturn, ← front]
      split
      · rename_i close
        rw [front] at close
        cases close
        exact absurd rfl notClose
      · exact found
    rw [chars, Input.written_cons, List.cons_append, valueWith]
    simp [skipBlanks, inside, -Input.written_append, -List.append_assoc]

/-- Reading has as many steps as there are members left. -/
theorem length_lt_members (name : String) (value : Json) (others : List (String × Json))
    (rest : Input) : others.length < (written
      (stringChars name ++ ':' :: (chars value ++ memberChars others)) ++ rest).length := by
  have few := length_lt_memberChars others
  simp only [List.length_append, List.length_cons, Input.length_written]
  omega

theorem object_written {inner : ValueReader} {members : List (String × Json)}
    (reads : ∀ member ∈ members, Undoes inner member.2) (rest : Input) :
    ∃ more, written (chars (.obj members)) ++ rest = some '\x7b' :: more ∧
      object inner more = some (members, rest) := by
  cases members with
  | nil => exact ⟨some '\x7d' :: rest, rfl, by simp [object, skipBlanks]⟩
  | cons first others =>
    obtain ⟨name, value⟩ := first
    refine ⟨_, by rw [chars, Input.written_cons, List.cons_append], ?_⟩
    have enough := length_lt_members name value others rest
    have found := members_memberChars reads enough rest
    rw [object]
    rw [stringChars] at found ⊢
    simpa [skipBlanks, -Input.written_append, -List.append_assoc] using found

theorem valueWith_obj {inner : ValueReader} {members : List (String × Json)}
    (sorted : Assoc.Sorted members) (reads : ∀ member ∈ members, Undoes inner member.2) :
    Undoes (valueWith (some inner)) (.obj members) := by
  intro rest _
  obtain ⟨more, shape, found⟩ := object_written reads rest
  rw [shape, valueWith]
  simp [skipBlanks, found, Assoc.ofList_eq_self sorted]

/-- A value without floats, whose integers have 64 bits, reads back wherever values may
nest as deep as it does. -/
theorem value_chars {bound : Nat} {value : Json} (integral : Integral Fits64 value)
    (ordered : Ordered value) (deep : depth value ≤ bound) : Undoes (Reader.value bound) value := by
  induction bound generalizing value with
  | zero => exact valueWith_scalar none integral (Nat.le_zero.1 deep)
  | succ bound ih =>
    match value, integral, ordered, deep with
    | .null, integral, _, _ => exact valueWith_scalar _ integral rfl
    | .bool _, integral, _, _ => exact valueWith_scalar _ integral rfl
    | .int _, integral, _, _ => exact valueWith_scalar _ integral rfl
    | .str _, integral, _, _ => exact valueWith_scalar _ integral rfl
    | .arr items, integral, ordered, deep =>
      have items := (integralItems_iff Fits64 items).1 integral
      have orders := (orderedItems_iff _).1 ordered
      have depths := (depthItems_le_iff bound _).1 (Nat.le_of_succ_le_succ deep)
      refine valueWith_arr integral fun item member => ?_
      exact ih (items item member) (orders item member) (depths item member)
    | .obj members, integral, ordered, deep =>
      have values := (integralMembers_iff Fits64 members).1 integral
      have orders := (orderedMembers_iff _).1 ordered.2
      have depths := (depthMembers_le_iff bound _).1 (Nat.le_of_succ_le_succ deep)
      refine valueWith_obj ordered.1 fun entry member => ?_
      exact ih (values entry member) (orders entry member) (depths entry member)

end Reader

/-- Values that are written alike are the same. -/
theorem render_inj {left right : Json} (leftIntegral : Integral Fits64 left)
    (rightIntegral : Integral Fits64 right) (leftOrdered : Ordered left)
    (rightOrdered : Ordered right) (same : left.render = right.render) : left = right := by
  have written : chars left = chars right := String.ofList_inj.1 same
  have first := Reader.value_chars leftIntegral leftOrdered
    (Nat.le_max_left (depth left) (depth right)) [] trivial
  have second := Reader.value_chars rightIntegral rightOrdered
    (Nat.le_max_right (depth left) (depth right)) [] trivial
  rw [written, second] at first
  cases first
  rfl

end Json
end DocStore
