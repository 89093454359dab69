import DocStore.Text.Split

/-!
# Resource paths

A path alternates collection names and document identifiers, as in
`/buckets/b1/collections/c1`.  A path that ends in `*` is a *node* path and
addresses every document of its collection; any other path is a *leaf* path and
addresses one document.
-/

namespace DocStore

/-- A resource path. -/
structure Path where
  /-- The path as it is written. -/
  text : String
  deriving DecidableEq, Inhabited

namespace Path

/-- What stands before and after the last occurrence of a character. -/
def splitAtLast (separator : Char) : List Char → Option (List Char × List Char)
  | [] => none
  | c :: rest =>
    match splitAtLast separator rest with
    | some (before, after) => some (c :: before, after)
    | none => if c = separator then some ([], rest) else none

/-- What stands before the first of two last slashes, or nothing. -/
def parentChars (chars : List Char) : List Char :=
  match splitAtLast '/' chars with
  | none => []
  | some (before, _) =>
    match splitAtLast '/' before with
    | none => []
    | some (parent, _) => parent

theorem length_of_splitAtLast {separator : Char} {chars before after : List Char}
    (split : splitAtLast separator chars = some (before, after)) :
    before.length + after.length + 1 = chars.length := by
  induction chars generalizing before after with
  | nil => simp [splitAtLast] at split
  | cons c rest ih =>
    unfold splitAtLast at split
    split at split
    · rename_i found
      have := ih found
      simp only [Option.some.injEq, Prod.mk.injEq] at split
      grind
    · grind

theorem length_parentChars_lt {chars : List Char} (nonempty : chars ≠ []) :
    (parentChars chars).length < chars.length := by
  have positive : 0 < chars.length := List.length_pos_iff.2 nonempty
  unfold parentChars
  split
  · exact positive
  · rename_i outer
    have := length_of_splitAtLast outer
    split
    · exact positive
    · rename_i inner
      have := length_of_splitAtLast inner
      omega

/-- Whether the path addresses every document of its collection. -/
def isNode (path : Path) : Bool := path.text.toList.getLast? = some '*'

/-- Whether nothing is written. -/
def isEmpty (path : Path) : Bool := path.text.isEmpty

/-- The collection and the identifier around the last slash; a path without a slash
has neither. -/
def split (path : Path) : String × String :=
  match splitAtLast '/' path.text.toList with
  | some (collection, id) => (String.ofList collection, String.ofList id)
  | none => ("", "")

/-- The collection that the path lies in. -/
def collection (path : Path) : String := path.split.1

/-- The identifier that the path ends in. -/
def documentId (path : Path) : String := path.split.2

/-- The path without its last collection and identifier. -/
def parent (path : Path) : Path := ⟨String.ofList (parentChars path.text.toList)⟩

/-- The same collection with another identifier. -/
def withDocumentId (path : Path) (id : String) : Path :=
  match splitAtLast '/' path.text.toList with
  | some (collection, _) => ⟨String.ofList collection ++ "/" ++ id⟩
  | none => ⟨path.text ++ "/" ++ id⟩

/-- A word without one `s` at its end. -/
def singular (word : List Char) : List Char :=
  if word.getLast? = some 's' then word.dropLast else word

/-- The singular of the last word of the collection. -/
def resourceName (path : Path) : String :=
  let collection := path.collection.toList
  match splitAtLast '/' collection with
  | some (_, word) => String.ofList (singular word)
  | none => String.ofList (singular collection)

/-- Whether the other path is addressed: a node path addresses every path of its
collection, a leaf path only itself. -/
def contains (path other : Path) : Bool :=
  if path.isNode then path.collection == other.collection else path == other

/-- A path and its ancestors as lists of characters, down to the empty one. -/
def ancestors (chars : List Char) : List (List Char) :=
  if nonempty : chars = [] then [[]]
  else
    have := length_parentChars_lt nonempty
    chars :: ancestors (parentChars chars)
termination_by chars.length

/-- The path and all of its ancestors, ending with the empty path. -/
def traverse (path : Path) : List Path :=
  (ancestors path.text.toList).map fun chars => ⟨String.ofList chars⟩

/-- What follows the digits of a version, up to a slash or the end. -/
def afterVersion? : List Char → Option (List Char)
  | [] => some []
  | c :: rest =>
    if c = '/' then some (c :: rest)
    else if '0' ≤ c ∧ c ≤ '9' then afterVersion? rest
    else none

/-- A request path without the API version `/v…` at its start. -/
def withoutVersion (chars : List Char) : List Char :=
  match chars with
  | '/' :: 'v' :: rest => (afterVersion? rest).getD chars
  | _ => chars

/-- The path of a request: without its API version, and with an odd number of
slashes, which ends in a collection, as a node path. -/
def normalize (requestPath : String) : Path :=
  let chars := withoutVersion requestPath.toList
  if chars.count '/' % 2 = 0 then ⟨String.ofList chars⟩
  else ⟨String.ofList (chars ++ ['/', '*'])⟩

/-- The path of a document in a collection. -/
def join (collection id : String) : Path := normalize (collection ++ "/" ++ id)

/-- The order of two paths as texts. -/
def compare (left right : Path) : Ordering := Ord.compare left.text right.text

end Path
end DocStore
