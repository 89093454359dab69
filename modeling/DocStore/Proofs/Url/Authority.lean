import DocStore.Proofs.Text.Numeral
import DocStore.Proofs.Url.Host
import DocStore.Proofs.Url.Segments

/-!
# Authorities read back

Credentials, a host and a port are told apart by the marks between them, which none of them has
within, except for the colons of an address, which stand in brackets.  So an authority that was
read is read again as it is written (`Reader.authority_settled`).
-/

namespace DocStore
namespace Url
namespace Reader

/-- An authority as a scheme outside the web has it. -/
structure SettledAuthority (authority : Authority) : Prop where
  username : FreeOf inCredentialSet authority.username
  password : FreeOf inCredentialSet authority.password
  host : authority.host.Settled
  port : ∀ port, authority.port = some port → port ≤ 65535
  /-- Nobody logs in nowhere. -/
  nowhere : authority.host.isEmpty = true →
    authority.username = "" ∧ authority.password = "" ∧ authority.port = none

/-- What may follow an authority. -/
def EndsAuthority (rest : List Char) : Prop :=
  ∀ c, rest.head? = some c → endsAuthority .other c = true

/-! ## Characters -/

/-- Whether a character may stand in a written authority. -/
def standsInAuthority (c : Char) : Bool := !endsAuthority .other c && isSolid c

theorem stands_of_credential {c : Char} (free : inCredentialSet c = false) :
    standsInAuthority c = true := by
  simp [inCredentialSet, inPathSet, inFragmentSet] at free
  simp [standsInAuthority, isSolid, endsAuthority, SchemeKind.isSlash, SchemeKind.isSpecial, free]

theorem stands_of_name {c : Char} (plain : Host.isForbidden c = false)
    (printed : Host.isControlOrWide c = false) : standsInAuthority c = true ∧ c ≠ '@' := by
  simp [Host.isForbidden] at plain
  simp [standsInAuthority, isSolid, endsAuthority, SchemeKind.isSlash, SchemeKind.isSpecial, plain,
    printed]

/-- The characters of an address. -/
theorem mem_ipv6Chars {pieces : List Nat} {c : Char} (member : c ∈ Host.ipv6Chars pieces) :
    c ∈ ':' :: Host.pieceDigits := by
  have written : ∀ pieces, c ∈ Host.pieceChars pieces → c ∈ ':' :: Host.pieceDigits := by
    intro pieces inside
    rcases Text.mem_join inside with rfl | ⟨digits, among, digit⟩
    · exact List.mem_cons_self
    · obtain ⟨piece, _, rfl⟩ := List.mem_map.1 among
      exact List.mem_cons_of_mem _ (Host.mem_pieceDigits (by decide) (Nat.le_refl 16) digit)
  unfold Host.ipv6Chars at member
  simp only [] at member
  split at member
  · exact written _ member
  · rcases List.mem_append.1 member with before | after
    · rcases List.mem_append.1 before with inside | mark
      · exact written _ inside
      · simp at mark
        exact mark ▸ List.mem_cons_self
    · exact written _ after

theorem stands_of_host {host : Host} (settled : host.Settled) {c : Char}
    (member : c ∈ host.chars) : standsInAuthority c = true ∧ c ≠ '@' := by
  cases host with
  | named text => exact stands_of_name (settled c member).1 (settled c member).2
  | ipv4 address => exact settled.elim
  | ipv6 pieces =>
    have every : ∀ c ∈ '[' :: ']' :: ':' :: Host.pieceDigits,
        standsInAuthority c = true ∧ c ≠ '@' := Text.forall_mem_of_all (by decide)
    refine every c ?_
    simp only [Host.chars, List.cons_append, List.mem_cons, List.mem_append, List.not_mem_nil,
      or_false] at member ⊢
    rcases member with bracket | inside | bracket
    · exact .inl bracket
    · exact .inr (.inr (List.mem_cons.1 (mem_ipv6Chars inside)))
    · exact .inr (.inl bracket)

/-- A written port. -/
def portChars : Option Nat → List Char
  | some port => ':' :: Text.Numeral.showNat port
  | none => []

theorem stands_of_port {port : Option Nat} {c : Char} (member : c ∈ portChars port) :
    standsInAuthority c = true ∧ c ≠ '@' := by
  cases port with
  | none => cases member
  | some port =>
    have every : ∀ c ∈ ':' :: Host.pieceDigits, standsInAuthority c = true ∧ c ≠ '@' :=
      Text.forall_mem_of_all (by decide)
    refine every c ?_
    rcases List.mem_cons.1 member with rfl | digit
    · exact List.mem_cons_self
    · exact List.mem_cons_of_mem _ (Host.mem_pieceDigits (by decide) (by decide) digit)

theorem stands_of_credentials {authority : Authority} (settled : SettledAuthority authority)
    {c : Char} (member : c ∈ credentialChars authority) : standsInAuthority c = true := by
  unfold credentialChars at member
  simp only [] at member
  split at member
  · cases member
  · rcases List.mem_append.1 member with before | mark
    · rcases List.mem_append.1 before with inside | behind
      · exact stands_of_credential (settled.username c inside)
      · split at behind
        · cases behind
        · rcases List.mem_cons.1 behind with rfl | inside
          · decide
          · exact stands_of_credential (settled.password c inside)
    · rw [List.mem_singleton.1 mark]
      decide

/-- The characters behind the credentials. -/
theorem stands_of_hostAndPort {authority : Authority} (settled : SettledAuthority authority)
    {c : Char} (member : c ∈ authority.host.chars ++ portChars authority.port) :
    standsInAuthority c = true ∧ c ≠ '@' :=
  (List.mem_append.1 member).elim (stands_of_host settled.host) stands_of_port

theorem stands_of_authority {authority : Authority} (settled : SettledAuthority authority)
    {c : Char} (member : c ∈ credentialChars authority ++
      (authority.host.chars ++ portChars authority.port)) : standsInAuthority c = true :=
  (List.mem_append.1 member).elim (stands_of_credentials settled) fun behind =>
    (stands_of_hostAndPort settled behind).1

/-! ## Credentials -/

theorem splitCredentials_of_not_mem {chars : List Char} (free : '@' ∉ chars) :
    splitCredentials chars = none := by
  induction chars with
  | nil => rfl
  | cons c rest ih =>
    obtain ⟨other, free⟩ : '@' ≠ c ∧ '@' ∉ rest := by simpa using free
    rw [splitCredentials, ih free]
    exact if_neg (Ne.symm other)

theorem splitCredentials_append (before : List Char) {after : List Char} (free : '@' ∉ after) :
    splitCredentials (before ++ '@' :: after) = some (before, after) := by
  induction before with
  | nil => simp [splitCredentials, splitCredentials_of_not_mem free]
  | cons c rest ih => simp [splitCredentials, ih]

/-- The user name and the password are read back. -/
theorem credentials_settled {username password : String} (user : FreeOf inCredentialSet username)
    (secret : FreeOf inCredentialSet password) :
    credentials (username.toList ++
      (if password.toList.isEmpty then [] else ':' :: password.toList)) =
        (username, password) := by
  have inside : ∀ c ∈ username.toList, (c ≠ ':' : Bool) = true := by
    intro c member
    have free := user c member
    simp [inCredentialSet] at free
    simp [free]
  have stops : ∀ c,
      (if password.toList.isEmpty then [] else ':' :: password.toList).head? = some c →
        (c ≠ ':' : Bool) = false := by
    intro c head
    split at head
    · cases head
    · cases head
      decide
  rw [credentials, Text.takeWhile_append_stop inside stops, Text.dropWhile_append_stop inside stops,
    user.encoded]
  split
  · rename_i none
    rw [List.drop_nil, ← List.isEmpty_iff.1 none, secret.encoded]
  · rw [List.drop_one, List.tail_cons, secret.encoded]

/-! ## Hosts -/

/-- What may follow a host. -/
def EndsHost (rest : List Char) : Prop :=
  ∀ c, rest.head? = some c → (endsAuthority .other c || c = ':') = true

theorem splitHost_of_endsHost {rest : List Char} (ends : EndsHost rest) :
    splitHost .other false rest = ([], rest) := by
  cases rest with
  | nil => rfl
  | cons c rest =>
    have stops := ends c rfl
    rw [splitHost, if_pos (by simpa using stops)]

/-- A name ends where it may. -/
theorem splitHost_name {name rest : List Char} (plain : ∀ c ∈ name, Host.isForbidden c = false)
    (ends : EndsHost rest) : splitHost .other false (name ++ rest) = (name, rest) := by
  induction name with
  | nil => exact splitHost_of_endsHost ends
  | cons c name ih =>
    have first := plain c List.mem_cons_self
    have others := ih fun other member => plain other (List.mem_cons_of_mem _ member)
    simp [Host.isForbidden] at first
    simp [splitHost, endsAuthority, SchemeKind.isSlash, SchemeKind.isSpecial, first, others]

/-- An address ends at its bracket, whatever colons it has. -/
theorem splitHost_address {inner rest : List Char}
    (within : ∀ c ∈ inner, c ∈ ':' :: Host.pieceDigits) (ends : EndsHost rest) :
    splitHost .other true (inner ++ ']' :: rest) = (inner ++ [']'], rest) := by
  induction inner with
  | nil =>
    have stops := splitHost_of_endsHost ends
    simp [splitHost, endsAuthority, SchemeKind.isSlash, SchemeKind.isSpecial, stops]
  | cons c inner ih =>
    have every : ∀ c ∈ ':' :: Host.pieceDigits,
        endsAuthority .other c = false ∧ c ≠ '[' ∧ c ≠ ']' := Text.forall_mem_of_all (by decide)
    have first := every c (within c List.mem_cons_self)
    have others := ih fun other member => within other (List.mem_cons_of_mem _ member)
    simp [splitHost, first, others]

theorem splitHost_settled {host : Host} (settled : host.Settled) {rest : List Char}
    (ends : EndsHost rest) : splitHost .other false (host.chars ++ rest) = (host.chars, rest) := by
  cases host with
  | named text => exact splitHost_name (fun c member => (settled c member).1) ends
  | ipv4 address => exact settled.elim
  | ipv6 pieces =>
    have within : ∀ c ∈ Host.ipv6Chars pieces, c ∈ ':' :: Host.pieceDigits := fun c member =>
      mem_ipv6Chars member
    have inner := splitHost_address within ends
    have bracket : endsAuthority .other '[' = false := rfl
    simp [Host.chars, splitHost, bracket, inner]

/-! ## Ports -/

theorem portDigits_of_endsAuthority {rest : List Char} (ends : EndsAuthority rest)
    (value : Option Nat) : portDigits value rest = .ok (value, rest) := by
  cases rest with
  | nil => rfl
  | cons c rest =>
    have stops := ends c rfl
    simp [endsAuthority, SchemeKind.isSlash, SchemeKind.isSpecial] at stops
    obtain ((rfl | rfl) | rfl) := stops <;> rfl

/-- The digits of a port are read up to where the authority ends. -/
theorem portDigits_append {digits rest : List Char} (nonempty : digits ≠ [])
    (all : ∀ c ∈ digits, c.isDigit = true) (ends : EndsAuthority rest) {value : Option Nat}
    (bound : Text.Numeral.valueFrom (value.getD 0) digits ≤ 65535) :
    portDigits value (digits ++ rest) =
      .ok (some (Text.Numeral.valueFrom (value.getD 0) digits), rest) := by
  induction digits generalizing value with
  | nil => exact absurd rfl nonempty
  | cons c digits ih =>
    have digit : isDigit c = true := by
      simpa [Char.isDigit, isDigit, Char.le_def] using all c List.mem_cons_self
    have grows := Text.Numeral.le_valueFrom (value.getD 0 * 10 + (c.toNat - '0'.toNat)) digits
    have small : ¬ value.getD 0 * 10 + (c.toNat - '0'.toNat) > 65535 :=
      Nat.not_lt.2 (Nat.le_trans grows bound)
    rw [List.cons_append, portDigits, if_pos digit, if_neg small]
    cases digits with
    | nil => exact portDigits_of_endsAuthority ends _
    | cons next digits =>
      exact ih (List.cons_ne_nil _ _)
        (fun other member => all other (List.mem_cons_of_mem _ member)) bound

theorem port_settled {number : Option Nat} (small : ∀ port, number = some port → port ≤ 65535)
    {rest : List Char} (ends : EndsAuthority rest) :
    port .other (portChars number ++ rest) = .ok (number, rest) := by
  cases number with
  | none =>
    unfold port
    split
    · rename_i behind starts
      have marks : rest = ':' :: behind := starts
      exact absurd (ends ':' (by rw [marks]; rfl)) (by decide)
    · rfl
  | some number =>
    have all : ∀ c ∈ Text.Numeral.showNat number, c.isDigit = true := fun c member =>
      Json.Reader.isDigit_of_mem_showNat member
    have whole : Text.Numeral.valueFrom 0 (Text.Numeral.showNat number) = number :=
      Text.Numeral.valueFrom_showNat number
    have nonempty : Text.Numeral.showNat number ≠ [] := Nat.toDigits_ne_nil
    have bound : Text.Numeral.valueFrom ((none : Option Nat).getD 0)
        (Text.Numeral.showNat number) ≤ 65535 := by
      rw [Option.getD_none, whole]
      exact small number rfl
    have read := portDigits_append nonempty all ends bound
    rw [Option.getD_none, whole] at read
    unfold port
    rw [portChars, List.cons_append]
    simp only [read]
    rfl

/-- A port may follow a host, and so may whatever follows an authority. -/
theorem endsHost_portChars (number : Option Nat) {rest : List Char} (ends : EndsAuthority rest) :
    EndsHost (portChars number ++ rest) := by
  intro c head
  cases number with
  | none => rw [ends c head, Bool.true_or]
  | some number =>
    cases head
    rfl

/-! ## Authorities -/

theorem authorityChars_eq (authority : Authority) :
    authorityChars authority = '/' :: '/' :: (credentialChars authority ++
      (authority.host.chars ++ portChars authority.port)) := by
  cases port : authority.port <;> simp [authorityChars, portChars, port]

/-- What is found in front of a host. -/
theorem exists_splitCredentials {authority : Authority} (settled : SettledAuthority authority)
    {behind : List Char} (free : '@' ∉ behind) :
    ∃ split, splitCredentials (credentialChars authority ++ behind) = split ∧
      credentials ((split.map (·.1)).getD []) = (authority.username, authority.password) ∧
      (split.map (·.2)).getD (credentialChars authority ++ behind) = behind ∧
      (split.any fun found => found.1.isEmpty) = false := by
  have read := credentials_settled settled.username settled.password
  unfold credentialChars
  simp only []
  split
  · rename_i nobody
    have user : authority.username.toList = [] := by simpa using nobody.1
    rw [nobody.2, if_pos rfl, user] at read
    exact ⟨none, splitCredentials_of_not_mem free, read, rfl, rfl⟩
  · rename_i someone
    refine ⟨some (authority.username.toList ++
      (if authority.password.toList.isEmpty then [] else ':' :: authority.password.toList),
      behind), ?_, read, rfl, ?_⟩
    · rw [List.append_assoc]
      exact splitCredentials_append _ free
    · rw [Option.any_some, List.isEmpty_eq_false_iff]
      intro none
      rw [List.append_eq_nil_iff] at none
      refine someone ⟨by simpa using none.1, ?_⟩
      by_cases secret : authority.password.toList.isEmpty
      · exact secret
      · rw [if_neg secret] at none
        cases none.2

/-- An authority is read back as it is written. -/
theorem authority_settled {authority : Authority} (settled : SettledAuthority authority)
    {rest : List Char} (ends : EndsAuthority rest) :
    Reader.authority .other (credentialChars authority ++
      (authority.host.chars ++ portChars authority.port) ++ rest) = .ok (authority, rest) := by
  have inside : ∀ c ∈ credentialChars authority ++
      (authority.host.chars ++ portChars authority.port), (!endsAuthority .other c) = true :=
    fun c member => (Bool.and_eq_true_iff.1 (stands_of_authority settled member)).1
  have stops : ∀ c, rest.head? = some c → (!endsAuthority .other c) = false := by
    intro c head
    rw [ends c head]
    rfl
  have extent := Text.takeWhile_append_stop inside stops
  have beyond := Text.dropWhile_append_stop inside stops
  obtain ⟨split, splits, names, behind, someone⟩ :=
    exists_splitCredentials settled fun member => (stands_of_hostAndPort settled member).2 rfl
  have address := splitHost_settled settled.host (endsHost_portChars authority.port ends)
  rw [← List.append_assoc] at address
  have name : host .other authority.host.chars = .ok authority.host :=
    Host.ofName_chars settled.host
  have number := port_settled settled.port ends
  -- Of the three checks for an empty host, the first is for credentials that are not written.
  have noPort : ¬ (authority.host.isEmpty = true ∧
      (portChars authority.port ++ rest).head? = some ':') := by
    rintro ⟨empty, colon⟩
    rw [(settled.nowhere empty).2.2] at colon
    exact absurd (ends ':' colon) (by decide)
  have noNames : ¬ (authority.host.isEmpty = true ∧ (!decide
      (authority.username.isEmpty = true ∧ authority.password.isEmpty = true)) = true) := by
    rintro ⟨empty, someName⟩
    obtain ⟨user, secret, _⟩ := settled.nowhere empty
    rw [user, secret] at someName
    cases someName
  unfold Reader.authority
  simp only [extent, beyond, splits, names, behind, someone, address, name, number,
    Bool.false_eq_true, false_and, if_false, bind, Except.bind, noPort, noNames]
  rfl

/-! ## Authorities that were read -/

theorem le_of_portDigits {chars : List Char} {value port : Option Nat} {rest : List Char}
    (bound : ∀ number, value = some number → number ≤ 65535)
    (read : portDigits value chars = .ok (port, rest)) :
    ∀ number, port = some number → number ≤ 65535 := by
  induction chars generalizing value with
  | nil =>
    cases read
    exact bound
  | cons c chars ih =>
    unfold portDigits at read
    split at read
    · simp only [] at read
      split at read
      · cases read
      · rename_i small
        refine ih ?_ read
        rintro number same
        cases same
        exact Nat.not_lt.1 small
    · split at read
      · cases read
        exact bound
      · cases read

theorem le_of_port {chars : List Char} {number : Option Nat} {rest : List Char}
    (read : port .other chars = .ok (number, rest)) :
    (∀ port, number = some port → port ≤ 65535) ∧ (chars.head? ≠ some ':' → number = none) := by
  unfold port at read
  split at read
  · refine ⟨?_, fun other => absurd rfl other⟩
    rename_i behind
    cases digits : portDigits none behind with
    | error failure => rw [digits] at read; cases read
    | ok found =>
      rw [digits] at read
      obtain ⟨value, after⟩ := found
      have bound := le_of_portDigits (fun _ same => by cases same) digits
      simp only [bind, Except.bind] at read
      cases read
      intro port same
      split at same
      · cases same
      · exact bound port same
  · cases read
    exact ⟨(fun _ same => by cases same), fun _ => rfl⟩

/-- Whatever is read as an authority is settled. -/
theorem settled_of_authority {chars rest : List Char} {authority : Authority}
    (read : Reader.authority .other chars = .ok (authority, rest)) :
    SettledAuthority authority := by
  unfold Reader.authority at read
  simp only [bind, Except.bind] at read
  generalize ((splitCredentials (chars.takeWhile fun c => !endsAuthority .other c)).map
    (·.1)).getD [] = names at read
  generalize ((splitCredentials (chars.takeWhile fun c => !endsAuthority .other c)).map
    (·.2)).getD (chars.takeWhile fun c => !endsAuthority .other c) ++
      (chars.dropWhile fun c => !endsAuthority .other c) = hostAndPort at read
  split at read
  · cases read
  · split at read
    · cases read
    · rename_i found name
      split at read
      · cases read
      · rename_i noPort
        split at read
        · cases read
        · rename_i number digits
          split at read
          · cases read
          · rename_i noNames
            cases read
            obtain ⟨bound, without⟩ := le_of_port digits
            have spares : ∀ c ∈ Text.escapeChars, inCredentialSet c = false :=
              Text.forall_mem_of_all (by decide)
            refine ⟨freeOf_encoded spares _, freeOf_encoded spares _,
              Host.settled_of_ofName name, bound, fun empty => ?_⟩
            simp only [empty, true_and, Bool.not_eq_true', decide_eq_false_iff_not,
              Decidable.not_not] at noPort noNames
            exact ⟨by simpa using noNames.1, by simpa using noNames.2, without noPort⟩

end Reader
end Url
end DocStore
