import DocStore.Proofs.Sql.GrantTables

/-!
# Conversations about grants

What the conversation of each operation on grants comes to, where the tables of the server show
links and gifts: it is answered from them, and the tables show then what the operation makes of
them (`acts_grantTalk`).  A node path is matched by patterns, which need a slash in the paths
that have gifts; operations that give on paths with a slash keep it so (`slashed_giftsAfter`).
-/

namespace DocStore

/-! ## Answers -/

/-- No list and a list that is not empty are told apart by what they list. -/
theorem eq_of_getD_nil_eq {α : Type} {left right : Option (List α)}
    (same : left.getD [] = right.getD []) (filled : left ≠ some []) (also : right ≠ some []) :
    left = right := by
  cases left with
  | none => cases right with
    | none => rfl
    | some items => exact absurd (congrArg some same.symm) also
  | some items => cases right with
    | none => exact absurd (congrArg some same) filled
    | some others => exact congrArg some same

/-- The links and the gifts leave an operation one answer. -/
theorem GrantOp.Answered.unique {op : GrantOp} {links : Set Link} {gifts : Set Gift}
    {first second : GrantAnswer} (left : op.Answered links gifts first)
    (right : op.Answered links gifts second) : first = second := by
  cases op with
  | userPrincipals _ | principalsOf _ | principalsOfAny _ | accessiblePaths _ _ =>
    cases first <;> cases second <;> try contradiction
    exact congrArg GrantAnswer.names (Lists.unique left right)
  | grantsOn path =>
    cases first <;> cases second <;> try contradiction
    refine congrArg GrantAnswer.grants (Dict.ext fun permission => ?_)
    obtain ⟨listed, filled⟩ := left permission
    obtain ⟨also, again⟩ := right permission
    exact eq_of_getD_nil_eq (listed.unique also) filled again
  | size =>
    cases first <;> cases second <;> try contradiction
    exact congrArg GrantAnswer.number (Eq.trans left (Eq.symm right))
  | flush | linkUsers _ _ | unlinkUsers _ _ | purgePrincipals _ | give _ _ | take _ _
  | giveAll _ _ | replaceAll _ _ | takeBelow _ =>
    cases first <;> cases second <;> first | rfl | contradiction

/-! ## Paths -/

/-- The paths on which an operation gives permissions. -/
def GrantOp.givenOn : GrantOp → List Path
  | .give _ grant => [grant.path]
  | .giveAll path _ | .replaceAll path _ => [path]
  | _ => []

namespace Sql

/-- Gifts stay on paths with a slash. -/
theorem slashed_giftsAfter {gifts : Set Gift} (slashed : Slashed gifts) {op : GrantOp}
    (given : ∀ path ∈ op.givenOn, path.Slashed) : Slashed (op.giftsAfter gifts) := by
  cases op with
  | flush => exact fun _ none => none.elim
  | give principal grant =>
    rintro gift (held | rfl)
    · exact slashed gift held
    · exact given grant.path List.mem_cons_self
  | giveAll path set =>
    rintro gift (held | ⟨on, _⟩)
    · exact slashed gift held
    · rw [on]
      exact given path List.mem_cons_self
  | replaceAll path set =>
    rintro gift (held | ⟨on, _⟩)
    · exact slashed gift held.1
    · rw [on]
      exact given path List.mem_cons_self
  | take _ _ | takeBelow _ => exact fun gift held => slashed gift held.1
  | userPrincipals _ | linkUsers _ _ | unlinkUsers _ _ | purgePrincipals _ | principalsOf _
  | principalsOfAny _ | grantsOn _ | accessiblePaths _ _ | size => exact slashed

/-! ## Pairs -/

theorem mem_pairsOf (set : GrantSet) (permission principal : String) :
    (permission, principal) ∈ pairsOf set ↔
      ∃ principals, set.find? permission = some principals ∧ principal ∈ principals := by
  simp [pairsOf, Dict.mem_entries_iff]

/-- The principals that are paired with a permission. -/
def pairedWith (permission : String) (pairs : List (String × String)) : List String :=
  (pairs.filter fun pair => pair.1 = permission).map Prod.snd

/-- Collects one more pair. -/
def collectPair (set : GrantSet) (pair : String × String) : GrantSet :=
  set.insert pair.1 (((set.find? pair.1).getD []) ++ [pair.2])

theorem getD_collectPairs (pairs : List (String × String)) (set : GrantSet)
    (permission : String) :
    ((pairs.foldl collectPair set).find? permission).getD [] =
      (set.find? permission).getD [] ++ pairedWith permission pairs := by
  induction pairs generalizing set with
  | nil => exact (List.append_nil _).symm
  | cons pair rest ih =>
    rw [List.foldl_cons, ih, collectPair, Dict.find?_insert, pairedWith, pairedWith,
      List.filter_cons]
    by_cases same : permission = pair.1
    · simp [same]
    · simp [same, Ne.symm same]

theorem find?_collectPairs_ne (pairs : List (String × String)) {set : GrantSet}
    (filled : ∀ permission, set.find? permission ≠ some []) (permission : String) :
    (pairs.foldl collectPair set).find? permission ≠ some [] := by
  induction pairs generalizing set with
  | nil => exact filled permission
  | cons pair rest ih =>
    refine ih fun other => ?_
    rw [collectPair, Dict.find?_insert]
    split
    · simp
    · exact filled other

/-- From pairs in order, the principals are collected in order. -/
theorem lists_collectPairs {pairs : List (String × String)}
    (sorted : pairs.Pairwise fun left right => toLex left < toLex right) (permission : String) :
    Lists (((collectPairs pairs).find? permission).getD [])
        {principal | (permission, principal) ∈ pairs} ∧
      (collectPairs pairs).find? permission ≠ some [] := by
  have collected := getD_collectPairs pairs Dict.empty permission
  rw [Dict.find?_empty, Option.getD_none, List.nil_append] at collected
  refine ⟨?_, find?_collectPairs_ne pairs (by simp) permission⟩
  refine (congrArg (Lists · _) collected).mpr ⟨?_, fun principal => ?_⟩
  · -- Pairs with the same permission are ordered by their principals.
    refine List.pairwise_map.2 ((sorted.filter _).imp_of_mem fun inLeft inRight less => ?_)
    have first := of_decide_eq_true (List.mem_filter.1 inLeft).2
    have second := of_decide_eq_true (List.mem_filter.1 inRight).2
    rcases Prod.Lex.toLex_lt_toLex.1 less with before | ⟨_, before⟩
    · exact absurd (first.trans second.symm) before.ne
    · exact before
  · simp [pairedWith]

/-! ## Conversations -/

variable {dialect : Dialect} {links linksBetween linksAfter : Set Link}
  {gifts giftsBetween giftsAfter : Set Gift} {α β : Type}

/-- Held with a server whose tables show links and gifts, a conversation comes to a value that
passes a test and leaves tables that show links and gifts after a change. -/
def Acts (dialect : Dialect) (links : Set Link) (gifts : Set Gift) (talk : Talk α)
    (test : α → Prop) (linksAfter : Set Link) (giftsAfter : Set Gift) : Prop :=
  ∀ server : Server, ShowsGrants server.tables links gifts →
    ∃ value tables, server.hold dialect talk = (.ok value, { server with tables }) ∧
      test value ∧ ShowsGrants tables linksAfter giftsAfter

namespace Acts

theorem pure {value : α} {test : α → Prop} (passes : test value) :
    Acts dialect links gifts (pure value) test links gifts :=
  fun server shows => ⟨value, server.tables, rfl, passes, shows⟩

theorem bind {talk : Talk α} {next : α → Talk β} {test : α → Prop} {more : β → Prop}
    (first : Acts dialect links gifts talk test linksBetween giftsBetween)
    (second : ∀ value, test value →
      Acts dialect linksBetween giftsBetween (next value) more linksAfter giftsAfter) :
    Acts dialect links gifts (talk >>= next) more linksAfter giftsAfter := by
  intro server shows
  obtain ⟨value, middle, held, passes, between⟩ := first server shows
  obtain ⟨last, tables, heldNext, passesNext, after⟩ :=
    second value passes { server with tables := middle } between
  exact ⟨last, tables, (Server.hold_bind_ok next held).trans heldNext, passesNext, after⟩

/-- Going on with a pure function of the value. -/
theorem map {talk : Talk α} {test : α → Prop} {more : β → Prop} {f : α → β}
    (first : Acts dialect links gifts talk test linksAfter giftsAfter)
    (passes : ∀ value, test value → more (f value)) :
    Acts dialect links gifts (talk >>= fun value => Pure.pure (f value)) more linksAfter
      giftsAfter :=
  first.bind fun value tested => pure (passes value tested)

theorem within {talk : Talk α} {test : α → Prop}
    (acts : Acts dialect links gifts talk test linksAfter giftsAfter) (task : String)
    (limit : Nat) :
    Acts dialect links gifts (talk.within task limit) test linksAfter giftsAfter := by
  intro server shows
  rw [Server.hold_within]
  exact acts server shows

theorem execute {statement : Statement}
    (makes : Makes dialect statement links gifts linksAfter giftsAfter) (task : String) :
    Acts dialect links gifts (Conversation.execute task statement) (fun _ => True) linksAfter
      giftsAfter := by
  intro server shows
  obtain ⟨affected, tables, executed, after⟩ := makes server.tables shows
  have runs : server.Runs dialect statement [] affected { server with tables } :=
    ⟨⟨tables, executed, rfl⟩⟩
  exact ⟨_, tables, runs.affected_eq task, trivial, after⟩

/-- A statement that is all there is to say. -/
theorem done {statement : Statement} {test : GrantAnswer → Prop}
    (makes : Makes dialect statement links gifts linksAfter giftsAfter) (task : String)
    (passes : test .done) :
    Acts dialect links gifts
      (Conversation.execute task statement >>= fun _ => Pure.pure .done) test linksAfter
      giftsAfter :=
  (execute makes task).map fun _ _ => passes

theorem fetchAll {statement : Statement} {read : Row → Except String α} {row : α → Row}
    {test : List α → Prop} (reads : ∀ value, read (row value) = .ok value)
    (runs : ∀ server : Server, ShowsGrants server.tables links gifts → ∃ values,
      server.Runs dialect statement (values.map row) values.length server ∧ test values)
    (task : String) :
    Acts dialect links gifts (Conversation.fetchAll task read statement) test links gifts := by
  intro server shows
  obtain ⟨values, shown, passes⟩ := runs server shows
  have decoded : (values.map row).mapM read = .ok (values.map id) :=
    mapM_map_ok fun value _ => reads value
  rw [List.map_id] at decoded
  exact ⟨values, server.tables, shown.fetchAll task decoded, passes, shows⟩

/-- A query for texts. -/
theorem fetchTexts {statement : Statement} {test : List String → Prop}
    (runs : ∀ server : Server, ShowsGrants server.tables links gifts → ∃ names : List String,
      server.Runs dialect statement (names.map textRow) names.length server ∧ test names)
    (task : String) :
    Acts dialect links gifts (Conversation.fetchAll task (single textCell) statement) test links
      gifts := by
  have reads (name : String) : single textCell (textRow name) = .ok name := rfl
  exact fetchAll reads runs task

end Acts

/-! ## Operations -/

/-- The principals for which a server is asked are the implicit ones. -/
theorem mem_implicitPrincipals_iff {user principal : String} :
    principal ∈ implicitPrincipals user ↔ HasImplicitly user principal := by
  simp only [implicitPrincipals, HasImplicitly]
  split
  case isTrue all => simp [all]
  case isFalse one =>
    split
    case isTrue known =>
      simp only [known, List.mem_cons, List.not_mem_nil, or_false]
      grind
    case isFalse other =>
      simp only [List.mem_cons, List.not_mem_nil, or_false]
      grind

/-- Giving permissions to principals, or nothing to say if there are none. -/
theorem acts_give (path : Path) (entries : List (String × String)) :
    Acts dialect links gifts (give path entries) (fun _ => True) links
      (gifts ∪ {gift | gift.path = path.text ∧
        (gift.permission, gift.principal) ∈ entries}) := by
  cases entries with
  | nil =>
    have same : gifts ∪ {gift | gift.path = path.text ∧
        (gift.permission, gift.principal) ∈ ([] : List (String × String))} = gifts := by
      simp
    rw [same]
    exact .pure trivial
  | cons entry rest =>
    exact (Acts.execute (makes_insertGrants path (entry :: rest)) _).bind fun _ _ => .pure trivial

theorem acts_giveAll (path : Path) (set : GrantSet) :
    Acts dialect links gifts (give path (pairsOf set)) (fun _ => True) links
      (gifts ∪ GrantOp.named path set) := by
  have named : GrantOp.named path set = {gift | gift.path = path.text ∧
      (gift.permission, gift.principal) ∈ pairsOf set} := by
    ext gift
    exact and_congr_right fun _ => (mem_pairsOf set gift.permission gift.principal).symm
  rw [named]
  exact acts_give path (pairsOf set)

/-- The conversation of an operation is answered from the links and the gifts, and makes of them
what the operation does. -/
theorem acts_grantExchange (slashed : Slashed gifts) (op : GrantOp) :
    Acts dialect links gifts (grantExchange op) (op.Answered links gifts) (op.linksAfter links)
      (op.giftsAfter gifts) := by
  -- Empty lists of arguments need cases of their own: nothing is said to the server then, so what
  -- the operation makes of the relations has to be what they were.
  cases op with
  | flush => exact .done (makes_emptyGrants links gifts) _ trivial
  | userPrincipals user =>
    refine (Acts.fetchTexts (fun _ shows => runs_selectLinked shows (implicitPrincipals user))
      _).map fun linked mem_iff => ?_
    refine Dict.lists_keys fun principal => ?_
    rw [NameSet.contains_ofNames, List.mem_append, mem_iff]
    simp only [Set.mem_ofPred_eq, mem_implicitPrincipals_iff]
  | linkUsers principal users =>
    cases users with
    | nil =>
      have same : GrantOp.linksAfter links (.linkUsers principal []) = links := by
        simp [GrantOp.linksAfter]
      rw [same]
      exact .pure trivial
    | cons user rest => exact .done (makes_insertLinks principal (user :: rest)) _ trivial
  | unlinkUsers principal users => exact .done (makes_deleteLinks principal users) _ trivial
  | purgePrincipals principals => exact .done (makes_deletePrincipals principals) _ trivial
  | principalsOf grant =>
    exact (Acts.fetchTexts (fun _ shows => runs_selectPrincipals shows grant) _).map
      fun _ lists => lists
  | give principal grant =>
    have same : GrantOp.giftsAfter gifts (.give principal grant) =
        gifts ∪ {gift | gift.path = grant.path.text ∧
          (gift.permission, gift.principal) ∈ [(grant.permission, principal)]} := by
      ext ⟨path, permission, other⟩
      simp [GrantOp.giftsAfter, or_comm]
    rw [same]
    exact (acts_give grant.path [(grant.permission, principal)]).map fun _ _ => trivial
  | take principal grant => exact .done (makes_deleteGrant principal grant) _ trivial
  | principalsOfAny grants =>
    cases grants with
    | nil => exact .pure ⟨.nil, by simp [Gift.MatchedBy]⟩
    | cons first rest =>
      exact (Acts.fetchTexts (fun _ shows => runs_selectMatching shows slashed first rest) _).map
        fun _ lists => lists
  | grantsOn path =>
    have reads (pair : String × String) : textPair (pairRow pair) = .ok pair := rfl
    refine (Acts.fetchAll reads (fun _ shows => runs_selectGrants shows path) _).map ?_
    rintro pairs ⟨sorted, mem_iff⟩ permission
    obtain ⟨lists, filled⟩ := lists_collectPairs sorted permission
    exact ⟨⟨lists.increasing, fun principal =>
      (lists.mem_iff principal).trans (mem_iff permission principal)⟩, filled⟩
  | giveAll path set =>
    exact (acts_giveAll path set).map fun _ _ => trivial
  | replaceAll path set =>
    rw [grantExchange]
    split
    · rename_i empty
      rw [GrantOp.giftsAfter_replaceAll_nothing gifts path empty]
      exact .pure trivial
    · -- All permissions that are named go first, and what is named comes back with its principals.
      exact (Acts.execute (makes_deletePermissions path set.keys) _).bind fun _ _ =>
        (acts_giveAll path set).map fun _ _ => trivial
  | takeBelow roots =>
    cases roots with
    | nil =>
      have same : GrantOp.giftsAfter gifts (.takeBelow []) = gifts := by
        simp [GrantOp.giftsAfter]
      rw [same]
      exact .pure trivial
    | cons root rest => exact .done (makes_deleteBelow (root :: rest)) _ trivial
  | accessiblePaths principals grants =>
    cases principals with
    | nil => exact .pure ⟨.nil, by simp⟩
    | cons principal others =>
      cases grants with
      | nil => exact .pure ⟨.nil, by simp [Gift.MatchedBy]⟩
      | cons first rest =>
        refine (Acts.fetchTexts (fun _ shows =>
          runs_selectPaths shows slashed (principal :: others) first rest) _).map fun _ lists => ?_
        exact ⟨lists.increasing, fun path => (lists.mem_iff path).trans
          (exists_congr fun gift => and_congr_right fun _ => and_assoc)⟩
  | size =>
    intro server shows
    have runs : server.Runs dialect selectGrantSize _ 1 server := runs_selectGrantSize shows
    exact ⟨_, server.tables, Server.hold_bind_ok _ (runs.fetchOne _ "" rfl), rfl, shows⟩

/-- A limit in time changes nothing. -/
theorem acts_grantTalk (slashed : Slashed gifts) (limit : Nat) (op : GrantOp) :
    Acts dialect links gifts (grantTalk limit op) (op.Answered links gifts) (op.linksAfter links)
      (op.giftsAfter gifts) :=
  (acts_grantExchange slashed op).within (grantTask op) limit

end Sql
end DocStore
