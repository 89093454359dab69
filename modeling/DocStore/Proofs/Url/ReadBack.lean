import DocStore.Proofs.Url.Authority
import DocStore.Proofs.Url.Scheme

/-!
# URLs read back

A URL of a scheme outside the web that was read is settled (`settled_of_ofText`): each of its parts
is encoded and has no mark that would end it.  A settled URL is read again as it is written
(`Settled.ofText_toText`).
-/

namespace DocStore
namespace Url

open Reader

/-! ## Settled URLs -/

/-- A path without structure that no mark ends. -/
structure SettledText (text : String) : Prop where
  printed : FreeOf Host.isControlOrWide text
  whole : FreeOf endsPath text
  start : text.toList.head? ≠ some '/'

/-- A path that fits what stands around it.  Spaces at the end are only kept in front of a query
or a fragment. -/
inductive SettledPath (url : Url) : Prop where
  | segments (names : List String) (path : url.path = .segments names)
      (segments : ∀ name ∈ names, SettledName name) (nonempty : url.authority = none → names ≠ [])
  | plain (text : String) (path : url.path = .plain text) (plain : SettledText text)
      (nobody : url.authority = none)
      (last : url.query = none → url.fragment = none → text.toList.getLast? ≠ some ' ')

/-- A URL of a scheme outside the web as reading leaves it. -/
structure Settled (url : Url) : Prop where
  scheme : SettledScheme url.scheme
  other : SchemeKind.of url.scheme = .other
  authority : ∀ authority, url.authority = some authority → SettledAuthority authority
  path : url.SettledPath
  query : ∀ query, url.query = some query → FreeOf inQuerySet query
  fragment : ∀ fragment, url.fragment = some fragment → FreeOf inFragmentSet fragment

variable {url : Url}

/-! ## What follows the path -/

/-- The query and the fragment. -/
def ending (url : Url) : List Char := partChars '?' url.query ++ partChars '#' url.fragment

/-- What holds of the mark and of the text behind it holds of a part. -/
theorem forall_mem_partChars {Good : Char → Prop} {mark : Char} {part : Option String}
    (start : Good mark) (behind : ∀ text, part = some text → ∀ c ∈ text.toList, Good c) :
    ∀ c ∈ partChars mark part, Good c := by
  cases part with
  | none => exact fun c member => absurd member List.not_mem_nil
  | some text =>
    intro c member
    rcases List.mem_cons.1 member with rfl | inside
    · exact start
    · exact behind text rfl c inside

theorem Settled.noHash_query (settled : url.Settled) :
    ∀ c ∈ partChars '?' url.query, (c ≠ '#' : Bool) = true := by
  refine forall_mem_partChars (by decide) fun query found c inside => ?_
  rw [decide_eq_true_eq]
  rintro rfl
  exact absurd (settled.query query found '#' inside) (by decide)

theorem hash_fragment (url : Url) :
    ∀ c, (partChars '#' url.fragment).head? = some c → (c ≠ '#' : Bool) = false := by
  cases url.fragment <;> simp [partChars]

theorem Settled.query?_ending (settled : url.Settled) : query? .other url.ending = url.query := by
  have inside := settled.noHash_query
  cases found : url.query with
  | none => cases fragment : url.fragment <;> simp [ending, found, fragment, partChars, query?]
  | some text =>
    rw [found, partChars] at inside
    have taken := Text.takeWhile_append_stop
      (fun c member => inside c (List.mem_cons_of_mem _ member)) url.hash_fragment
    rw [ending, found, partChars, List.cons_append, query?, taken]
    exact congrArg some (settled.query text found).encoded

theorem Settled.fragment?_ending (settled : url.Settled) :
    fragment? (url.ending.dropWhile (· ≠ '#')) = url.fragment := by
  rw [ending, Text.dropWhile_append_stop settled.noHash_query url.hash_fragment]
  cases found : url.fragment with
  | none => rfl
  | some text => rw [partChars, fragment?, (settled.fragment text found).encoded]

/-- The query and the fragment are read back. -/
theorem Settled.finish_ending (settled : url.Settled) (authority : Option Authority)
    (path : UrlPath) :
    finish .other url.scheme authority path url.ending = { url with authority, path } := by
  rw [finish, settled.query?_ending, settled.fragment?_ending]

theorem endsPath_of_ending {c : Char} (head : url.ending.head? = some c) : endsPath c = true := by
  unfold ending at head
  cases query : url.query <;> cases fragment : url.fragment <;>
    rw [query, fragment] at head <;> cases head <;> rfl

theorem splitPath_ending (url : Url) {path : List Char}
    (whole : ∀ c ∈ path, endsPath c = false) :
    splitPath (path ++ url.ending) = (path, url.ending) := by
  have inside : ∀ c ∈ path, (!endsPath c) = true := by simpa using whole
  have stops : ∀ c, url.ending.head? = some c → (!endsPath c) = false := by
    intro c head
    rw [endsPath_of_ending head]
    rfl
  rw [splitPath, List.span_eq_takeWhile_dropWhile, Text.takeWhile_append_stop inside stops,
    Text.dropWhile_append_stop inside stops]

/-! ## What follows the scheme -/

/-- The authority and the path, kept apart. -/
def beginning (url : Url) : List Char :=
  (url.authority.map authorityChars).getD [] ++ pathGuard url ++ pathChars url.path

/-- What holds of a slash, and of whatever a path does not encode, holds of a path. -/
theorem forall_mem_segments {Good : Char → Prop} (slash : Good '/')
    (free : ∀ c, inPathSet c = false → Good c) {names : List String}
    (segments : ∀ name ∈ names, SettledName name) : ∀ c ∈ pathChars (.segments names), Good c := by
  intro c member
  obtain ⟨name, among, inside⟩ := List.mem_flatMap.1 member
  rcases List.mem_cons.1 inside with rfl | inside
  · exact slash
  · exact free c ((segments name among).free c inside)

/-- A settled segment does not end a path. -/
theorem whole_of_segments {names : List String} (segments : ∀ name ∈ names, SettledName name) :
    ∀ c ∈ pathChars (.segments names), endsPath c = false := by
  refine forall_mem_segments (by decide) (fun c free => ?_) segments
  simp [inPathSet] at free
  simp [endsPath, free]

theorem endsAuthority_of_segments (names : List String) (url : Url) :
    EndsAuthority (pathChars (.segments names) ++ url.ending) := by
  intro c head
  cases names with
  | cons name rest =>
    cases head
    rfl
  | nil =>
    have mark := endsPath_of_ending head
    simp only [endsPath, Bool.or_eq_true, decide_eq_true_eq] at mark
    rcases mark with rfl | rfl <;> rfl

/-- What ends a URL adds no slash in front. -/
theorem append_ending_ne_slash {chars : List Char} (start : chars.head? ≠ some '/') (url : Url)
    (rest : List Char) : chars ++ url.ending ≠ '/' :: rest := by
  intro same
  cases chars with
  | nil =>
    have head : url.ending.head? = some '/' := congrArg List.head? same
    exact absurd (endsPath_of_ending head) (by decide)
  | cons c others =>
    obtain ⟨rfl, _⟩ := List.cons.inj same
    exact start rfl

/-- Only two slashes in front of a path are kept apart. -/
theorem pathGuard_eq_nil (url : Url) (single : ∀ rest, pathChars url.path ≠ '/' :: '/' :: rest) :
    pathGuard url = [] := by
  unfold pathGuard
  split
  · exact absurd ‹_› (single _)
  · rfl

theorem otherUrl_authority (settled : url.Settled) {authority : Authority}
    (found : url.authority = some authority) {names : List String}
    (path : url.path = .segments names) (segments : ∀ name ∈ names, SettledName name) :
    otherUrl url.scheme (url.beginning ++ url.ending) = .ok url := by
  have who := authority_settled (settled.authority authority found)
    (endsAuthority_of_segments names url)
  have split := splitPath_ending url (whole_of_segments segments)
  have ended := settled.finish_ending (some authority) (.segments names)
  have behind : url.beginning ++ url.ending = '/' :: '/' :: (credentialChars authority ++
      (authority.host.chars ++ portChars authority.port) ++
        (pathChars (.segments names) ++ url.ending)) := by
    simp [beginning, found, path, pathGuard, authorityChars_eq]
  rw [behind, otherUrl, hierarchicalUrl, who]
  simp only [bind, Except.bind, split, pathAfterAuthority_settled segments, ended]
  rw [← found, ← path]
  rfl

theorem otherUrl_plain (settled : url.Settled) (nobody : url.authority = none) {text : String}
    (found : url.path = .plain text) (plain : SettledText text) :
    otherUrl url.scheme (url.beginning ++ url.ending) = .ok url := by
  have split := splitPath_ending url plain.whole
  have ended := settled.finish_ending none (.plain text)
  have noSlash := append_ending_ne_slash plain.start url
  have unguarded : pathGuard url = [] := by
    refine pathGuard_eq_nil url fun rest written => ?_
    rw [found] at written
    exact noSlash _ (congrArg (· ++ url.ending) written)
  have behind : url.beginning ++ url.ending = text.toList ++ url.ending := by
    simp [beginning, nobody, unguarded, found, pathChars]
  rw [behind]
  unfold otherUrl
  split
  · exact absurd ‹_› (noSlash _)
  · exact absurd ‹_› (noSlash _)
  · simp only [split, plain.printed.encoded, ended]
    rw [← found, ← nobody]

/-- Two slashes in front of a path are kept apart by a dot, which reading passes. -/
theorem otherUrl_guarded (settled : url.Settled) (nobody : url.authority = none)
    {name : String} {rest : List String} (found : url.path = .segments (name :: rest))
    (segments : ∀ other ∈ name :: rest, SettledName other)
    (slash : (name.toList ++ pathChars (.segments rest)).head? = some '/') :
    otherUrl url.scheme (url.beginning ++ url.ending) = .ok url := by
  obtain ⟨more, starts⟩ := List.head?_eq_some_iff.1 slash
  have guarded : pathGuard url = ['/', '.'] := by
    rw [pathGuard, nobody, found, pathChars_cons, starts]
    rfl
  have behind : url.beginning ++ url.ending =
      '/' :: (('.' :: pathChars (.segments (name :: rest))) ++ url.ending) := by
    simp [beginning, nobody, guarded, found]
  have dotted : ∀ c ∈ '.' :: pathChars (.segments (name :: rest)), endsPath c = false := by
    intro c member
    rcases List.mem_cons.1 member with rfl | inside
    · rfl
    · exact whole_of_segments segments c inside
  have ended := settled.finish_ending none (.segments (name :: rest))
  rw [behind, otherUrl]
  · simp only [splitPath_ending url dotted, walkPath_guarded (List.cons_ne_nil _ _) segments, ended]
    rw [← found, ← nobody]
  · intro rest start
    cases start

theorem otherUrl_unguarded (settled : url.Settled) (nobody : url.authority = none)
    {name : String} {rest : List String} (found : url.path = .segments (name :: rest))
    (segments : ∀ other ∈ name :: rest, SettledName other)
    (noSlash : (name.toList ++ pathChars (.segments rest)).head? ≠ some '/') :
    otherUrl url.scheme (url.beginning ++ url.ending) = .ok url := by
  have unguarded : pathGuard url = [] := by
    refine pathGuard_eq_nil url fun more start => noSlash ?_
    rw [found, pathChars_cons] at start
    rw [(List.cons.inj start).2]
    rfl
  have behind : url.beginning ++ url.ending =
      '/' :: ((name.toList ++ pathChars (.segments rest)) ++ url.ending) := by
    simp [beginning, nobody, unguarded, found, pathChars_cons]
  have inside : ∀ c ∈ name.toList ++ pathChars (.segments rest), endsPath c = false := by
    have whole := whole_of_segments segments
    rw [pathChars_cons] at whole
    exact fun c member => whole c (List.mem_cons_of_mem _ member)
  have ended := settled.finish_ending none (.segments (name :: rest))
  rw [behind, otherUrl]
  · simp only [splitPath_ending url inside, walkPath_settled segments, ended]
    rw [← found, ← nobody]
  · exact fun rest start => append_ending_ne_slash noSlash url rest start

/-- What follows the scheme is read back. -/
theorem otherUrl_settled (settled : url.Settled) :
    otherUrl url.scheme (url.beginning ++ url.ending) = .ok url := by
  cases settled.path with
  | plain text path plain nobody _ => exact otherUrl_plain settled nobody path plain
  | segments names path segments nonempty =>
    cases found : url.authority with
    | some authority => exact otherUrl_authority settled found path segments
    | none =>
      obtain ⟨name, rest, rfl⟩ := List.exists_cons_of_ne_nil (nonempty found)
      by_cases slash : (name.toList ++ pathChars (.segments rest)).head? = some '/'
      · exact otherUrl_guarded settled found path segments slash
      · exact otherUrl_unguarded settled found path segments slash

/-! ## Whole texts -/

/-- What stands in front of the path. -/
def front (url : Url) : List Char :=
  url.scheme.toList ++ ':' :: ((url.authority.map authorityChars).getD [] ++ pathGuard url)

theorem toList_toText (url : Url) :
    url.toText.toList = url.front ++ pathChars url.path ++ url.ending := by
  simp [toText, front, ending]

theorem Settled.isSolid_front (settled : url.Settled) : ∀ c ∈ url.front, isSolid c = true := by
  intro c member
  simp only [front, List.mem_append, List.mem_cons] at member
  rcases member with inside | rfl | inside | inside
  · exact isSolid_of_inScheme (settled.scheme.within c inside).1
  · decide
  · cases found : url.authority with
    | none =>
      rw [found] at inside
      cases inside
    | some authority =>
      rw [found, Option.map_some, Option.getD_some, authorityChars_eq, List.mem_cons,
        List.mem_cons] at inside
      rcases inside with rfl | rfl | inside
      · decide
      · decide
      · have stands := stands_of_authority (settled.authority authority found) inside
        exact (Bool.and_eq_true_iff.1 stands).2
  · have every : ∀ c ∈ ['/', '.'], isSolid c = true := Text.forall_mem_of_all (by decide)
    unfold pathGuard at inside
    split at inside
    · exact every c inside
    · cases inside

theorem Settled.isSolid_ending (settled : url.Settled) : ∀ c ∈ url.ending, isSolid c = true := by
  intro c member
  rcases List.mem_append.1 member with inside | inside
  · exact forall_mem_partChars (by decide)
      (fun query found d among => isSolid_of_query (settled.query query found d among)) c inside
  · exact forall_mem_partChars (by decide)
      (fun fragment found d among => isSolid_of_fragment (settled.fragment fragment found d among))
      c inside

theorem isSolid_segments {names : List String} (segments : ∀ name ∈ names, SettledName name) :
    ∀ c ∈ pathChars (.segments names), isSolid c = true :=
  forall_mem_segments (by decide) (fun _ free => isSolid_of_path free) segments

/-- Nothing in a text is a control. -/
theorem Settled.printed (settled : url.Settled) :
    ∀ c ∈ url.toText.toList, Host.isControlOrWide c = false := by
  intro c member
  rw [toList_toText, List.mem_append, List.mem_append] at member
  rcases member with (inside | inside) | inside
  · exact printed_of_isSolid (settled.isSolid_front c inside)
  · cases settled.path with
    | plain text path plain _ _ =>
      rw [path] at inside
      exact plain.printed c inside
    | segments names path segments _ =>
      rw [path] at inside
      exact printed_of_isSolid (isSolid_segments segments c inside)
  · exact printed_of_isSolid (settled.isSolid_ending c inside)

/-- No text ends in a blank. -/
theorem Settled.last_ne_blank (settled : url.Settled) :
    url.toText.toList.getLast? ≠ some ' ' := by
  intro last
  have solid : ∀ chars : List Char, (∀ c ∈ chars, isSolid c = true) → chars.getLast? ≠ some ' ' :=
    fun chars all last => absurd (all ' ' (List.mem_of_getLast? last)) (by decide)
  rw [toList_toText, List.getLast?_append, List.getLast?_append] at last
  rcases Option.or_eq_some_iff.1 last with ended | ⟨bare, last⟩
  · exact solid _ settled.isSolid_ending ended
  · rcases Option.or_eq_some_iff.1 last with ended | ⟨_, last⟩
    · cases settled.path with
      | plain text path _ _ bareLast =>
        have nothing : url.query = none ∧ url.fragment = none := by
          cases query : url.query <;> cases fragment : url.fragment <;>
            simp [ending, query, fragment, partChars] at bare ⊢
        rw [path] at ended
        exact bareLast nothing.1 nothing.2 ended
      | segments names path segments _ =>
        rw [path] at ended
        exact solid _ (isSolid_segments segments) ended
    · exact solid _ settled.isSolid_front last

theorem trimmed_eq_self {chars : List Char}
    (start : ∀ c, chars.head? = some c → isOuterBlank c = false)
    (last : ∀ c, chars.getLast? = some c → isOuterBlank c = false) : trimmed chars = chars := by
  have kept : ∀ text : List Char, (∀ c, text.head? = some c → isOuterBlank c = false) →
      text.dropWhile isOuterBlank = text := by
    intro text first
    cases text with
    | nil => rfl
    | cons c rest => exact List.dropWhile_cons_of_neg (by simp [first c rfl])
  rw [trimmed, kept chars start, kept _ (by simpa using last), List.reverse_reverse]

/-- A settled URL is read again as it is written. -/
theorem Settled.ofText_toText (settled : url.Settled) : ofText url.toText = .ok url := by
  have printed := settled.printed
  have blank : ∀ c ∈ url.toText.toList, c ≠ ' ' → isOuterBlank c = false := by
    intro c member other
    have visible := printed c member
    have value : c.toNat ≠ ' '.toNat := fun same => other (Char.toNat_inj.1 same)
    simp [Host.isControlOrWide] at visible
    simp [isOuterBlank] at value ⊢
    omega
  have trimmed : trimmed url.toText.toList = url.toText.toList := by
    refine trimmed_eq_self (fun c first => ?_) fun c last => ?_
    · refine blank c (List.mem_of_head? first) ?_
      rintro rfl
      obtain ⟨d, rest, starts⟩ : ∃ d rest, url.front = d :: rest :=
        List.exists_cons_of_ne_nil (by simp [front])
      have solid := settled.isSolid_front d (starts ▸ List.mem_cons_self)
      rw [toList_toText, starts] at first
      cases first
      exact absurd solid (by decide)
    · refine blank c (List.mem_of_getLast? last) ?_
      rintro rfl
      exact settled.last_ne_blank last
  have text : url.toText.toList = url.scheme.toList ++ ':' :: (url.beginning ++ url.ending) := by
    simp [toList_toText, front, beginning]
  unfold ofText
  simp only [trimmed, filter_isBreak printed]
  rw [text, scheme?_settled settled.scheme]
  simp only [settled.other, otherUrl_settled settled]

end Url
end DocStore
