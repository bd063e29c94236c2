import Launchplane.Chain.Linked
import Launchplane.MergeTrain.Queue

/-!
# Launchplane.MergeTrain.StackDiscovery

**When a discovered stack is a stack.** Discovery goes from branch to branch: the
pull request that targets the head of the last one is the next, until nothing
targets it. A pull request that was followed is not followed again, and it is
taken out *before* the siblings are counted. So a branch that is met a second
time, or the base branch itself, looks like a branch nobody has stacked on yet,
and whatever else targets it is pulled in.

* `StackPath`: the walk, as a relation on the snapshot.
* `GenuineStack`: what the entries of a stack should look like.
* `NeverReturns`: no branch on the walk has an open child that was followed
  already.
* `NeverLeadsBack`: no open pull request that hangs on the root, however far up,
  leads back to what was passed on the way. This is about the snapshot alone.

Where discovery reports a stack, the last three come to the same thing.
-/

namespace Launchplane.MergeTrain

open Launchplane.Chain

/-! ### The walk -/

/-- The child the loop follows has to be acceptable, and ready for the train. -/
def stackChildReasons (policy : MergeTrainRepositoryPolicy) (snapshot : MergeTrainDryRunSnapshot)
    (child : MergeTrainPullRequestSnapshot) : List String :=
  if stackPullRequestReasons snapshot child ≠ [] then stackPullRequestReasons snapshot child
  else mergeTrainStackChildReadinessReasons policy child false

/-- The pull requests on a branch that were not followed yet. -/
def unfollowed (snapshot : MergeTrainDryRunSnapshot)
    (followed : List MergeTrainPullRequestSnapshot) (branch : String) :
    List MergeTrainPullRequestSnapshot :=
  snapshot.pullRequests.filter fun pullRequest =>
    pullRequest.number ∉ followed.map (·.number) ∧ pullRequest.baseRef = branch

/-- The walk from `parent`, the last of `followed`: each step takes the only pull request on the
parent's branch that was not followed, until there is none. -/
inductive StackPath (policy : MergeTrainRepositoryPolicy) (snapshot : MergeTrainDryRunSnapshot) :
    List MergeTrainPullRequestSnapshot → MergeTrainPullRequestSnapshot →
      List MergeTrainPullRequestSnapshot → Prop
  | leaf {followed : List MergeTrainPullRequestSnapshot} {parent : MergeTrainPullRequestSnapshot}
      (hleft : unfollowed snapshot followed parent.headRef = []) :
      StackPath policy snapshot followed parent []
  | child {followed rest : List MergeTrainPullRequestSnapshot}
      {parent child : MergeTrainPullRequestSnapshot}
      (hleft : unfollowed snapshot followed parent.headRef = [child])
      (hready : stackChildReasons policy snapshot child = [])
      (path : StackPath policy snapshot (child :: followed) child rest) :
      StackPath policy snapshot followed parent (child :: rest)

section

variable {policy : MergeTrainRepositoryPolicy} {snapshot : MergeTrainDryRunSnapshot}
  {followed children : List MergeTrainPullRequestSnapshot}
  {root parent child : MergeTrainPullRequestSnapshot}

theorem reasonIf_eq_nil {condition : Prop} [Decidable condition] {reason : String} :
    reasonIf condition reason = [] ↔ ¬ condition := by
  unfold reasonIf
  split <;> simp [*]

/-- What discovery asks of every member of a stack. -/
structure StackMember (snapshot : MergeTrainDryRunSnapshot)
    (pullRequest : MergeTrainPullRequestSnapshot) : Prop where
  opened : pullRequest.state = .opened
  named : pullRequest.headRef ≠ ""

theorem stackMember_of_reasons (h : stackPullRequestReasons snapshot child = []) :
    StackMember snapshot child := by
  simp only [stackPullRequestReasons, List.append_eq_nil_iff, reasonIf_eq_nil] at h
  obtain ⟨⟨⟨⟨⟨⟨hopen, hnamed⟩, -⟩, -⟩, -⟩, -⟩, -⟩ := h
  exact ⟨not_not.mp hopen, hnamed⟩

theorem stackMember_of_childReasons (h : stackChildReasons policy snapshot child = []) :
    StackMember snapshot child := by
  unfold stackChildReasons at h
  split at h
  case isTrue hreasons => exact absurd h hreasons
  case isFalse hreasons => exact stackMember_of_reasons (not_not.mp hreasons)

theorem mem_unfollowed {branch : String} :
    child ∈ unfollowed snapshot followed branch ↔
      child ∈ snapshot.pullRequests ∧ child.number ∉ followed.map (·.number) ∧
        child.baseRef = branch := by
  simp [unfollowed]

/-- What is left of the unseen pull requests on a branch is what was not followed. -/
theorem filter_unseen (branch : String) :
    (snapshot.pullRequests.filter (fun p => p.number ∉ followed.map (·.number))).filter
        (fun child => child.baseRef = branch) = unfollowed snapshot followed branch := by
  simp only [unfollowed, List.filter_filter, Bool.decide_and, Bool.and_comm]

theorem withoutNumber_unseen :
    withoutNumber child.number
        (snapshot.pullRequests.filter (fun p => p.number ∉ followed.map (·.number))) =
      snapshot.pullRequests.filter (fun p => p.number ∉ (child :: followed).map (·.number)) := by
  simp [withoutNumber, List.filter_filter]

/-- The loop returns the members of the walk, and of nothing else. -/
theorem stackChain_eq_ok (hnamed : parent.headRef ≠ "") :
    stackChain policy snapshot parent.headRef
        (snapshot.pullRequests.filter (fun p => p.number ∉ followed.map (·.number))) =
          .ok children ↔
      StackPath policy snapshot followed parent children := by
  -- a walk has as many steps as it returns members
  induction children generalizing followed parent with
  | nil =>
    rw [stackChain, if_neg hnamed]
    split
    next hleft =>
      rw [filter_unseen] at hleft
      exact ⟨fun _ => .leaf hleft, fun _ => rfl⟩
    next c hleft =>
      rw [filter_unseen] at hleft
      show (if stackChildReasons policy snapshot c ≠ [] then
        Except.error (stackChildReasons policy snapshot c) else _) = _ ↔ _
      refine ⟨fun h => ?_, fun path => ?_⟩
      · split at h
        · cases h
        · obtain ⟨rest, -, hrest⟩ := map_eq_ok.mp h
          cases hrest
      · cases path with
        | leaf hnone => rw [hnone] at hleft; cases hleft
    next a b rest hleft =>
      rw [filter_unseen] at hleft
      refine ⟨fun h => (by cases h), fun path => ?_⟩
      cases path with
      | leaf hnone => rw [hnone] at hleft; cases hleft
  | cons first rest ih =>
    rw [stackChain, if_neg hnamed]
    split
    next hleft =>
      rw [filter_unseen] at hleft
      refine ⟨fun h => (by cases h), fun path => ?_⟩
      cases path with
      | child hone _ _ => rw [hone] at hleft; cases hleft
    next c hleft =>
      rw [filter_unseen] at hleft
      show (if stackChildReasons policy snapshot c ≠ [] then
        Except.error (stackChildReasons policy snapshot c) else _) = _ ↔ _
      rw [withoutNumber_unseen]
      refine ⟨fun h => ?_, fun path => ?_⟩
      · split at h
        case isTrue => cases h
        case isFalse hready =>
          have hready := not_not.mp hready
          obtain ⟨found, hfound, heq⟩ := map_eq_ok.mp h
          cases heq
          exact .child hleft hready ((ih (stackMember_of_childReasons hready).named).mp hfound)
      · cases path with
        | child hone hready path =>
          cases hleft.symm.trans hone
          rw [if_neg (not_not.mpr hready),
            (ih (stackMember_of_childReasons hready).named).mpr path]
          rfl
    next a b more hleft =>
      rw [filter_unseen] at hleft
      refine ⟨fun h => (by cases h), fun path => ?_⟩
      cases path with
      | child hone _ _ => rw [hone] at hleft; cases hleft

end

/-! ### A genuine stack -/

@[simp] theorem stackEntry_number (p : MergeTrainPullRequestSnapshot) :
    (stackEntry p).number = p.number := rfl
@[simp] theorem stackEntry_headRef (p : MergeTrainPullRequestSnapshot) :
    (stackEntry p).headRef = p.headRef := rfl
@[simp] theorem stackEntry_baseRef (p : MergeTrainPullRequestSnapshot) :
    (stackEntry p).baseRef = p.baseRef := rfl

/-- The open pull requests stacked on a branch. -/
def openChildren (snapshot : MergeTrainDryRunSnapshot) (branch : String) :
    List MergeTrainPullRequestSnapshot :=
  snapshot.pullRequests.filter fun pullRequest =>
    pullRequest.state = .opened ∧ pullRequest.baseRef = branch

/-- Every branch has exactly one open child, except the last, which has none. -/
def OneChildEach (snapshot : MergeTrainDryRunSnapshot) : List String → Prop
  | [] => True
  | [last] => openChildren snapshot last = []
  | branch :: rest => (openChildren snapshot branch).length = 1 ∧ OneChildEach snapshot rest

/-- What the entries of a stack should look like. -/
structure GenuineStack (snapshot : MergeTrainDryRunSnapshot)
    (entries : List MergeTrainStackEntry) : Prop where
  /-- No pull request is listed twice. -/
  numbers : (entries.map (·.number)).Nodup
  /-- No branch is listed twice. -/
  heads : (entries.map (·.headRef)).Nodup
  /-- The root targets the base branch, and every later entry the head of the one before it. -/
  linked : Linked (·.baseRef) (·.headRef) snapshot.baseBranch entries
  /-- The base branch is nobody's head. -/
  offBase : ∀ entry ∈ entries, entry.headRef ≠ snapshot.baseBranch
  /-- No other root of the train is in the stack. -/
  onlyRoot : ∀ entry ∈ entries.tail, entry.baseRef ≠ snapshot.baseBranch
  /-- The branches fork nowhere, and end at the last entry. -/
  oneChild : OneChildEach snapshot (entries.map (·.headRef))

/-- A branch of the walk has an open child that was followed already. -/
def Returns (snapshot : MergeTrainDryRunSnapshot)
    (followed : List MergeTrainPullRequestSnapshot) (parent : MergeTrainPullRequestSnapshot) :
    Prop :=
  ∃ child ∈ openChildren snapshot parent.headRef, child.number ∈ followed.map (·.number)

/-- No branch of the walk does. -/
def NeverReturns (snapshot : MergeTrainDryRunSnapshot) :
    List MergeTrainPullRequestSnapshot → MergeTrainPullRequestSnapshot →
      List MergeTrainPullRequestSnapshot → Prop
  | followed, parent, [] => ¬ Returns snapshot followed parent
  | followed, parent, child :: rest =>
    ¬ Returns snapshot followed parent ∧ NeverReturns snapshot (child :: followed) child rest

section

variable {policy : MergeTrainRepositoryPolicy} {snapshot : MergeTrainDryRunSnapshot}
  {followed children : List MergeTrainPullRequestSnapshot}
  {root parent child : MergeTrainPullRequestSnapshot}

theorem mem_openChildren {branch : String} :
    child ∈ openChildren snapshot branch ↔
      child ∈ snapshot.pullRequests ∧ child.state = .opened ∧ child.baseRef = branch := by
  simp [openChildren]

theorem NeverReturns.here (h : NeverReturns snapshot followed parent children) :
    ¬ Returns snapshot followed parent := by
  cases children with
  | nil => exact h
  | cons child rest => exact h.1

/-- What was followed so far: open pull requests of the snapshot, of which one targets the base
branch and one targets each head except the parent's. -/
structure Followed (snapshot : MergeTrainDryRunSnapshot)
    (followed : List MergeTrainPullRequestSnapshot) (parent : MergeTrainPullRequestSnapshot) :
    Prop where
  opened : ∀ p ∈ followed, p ∈ snapshot.pullRequests ∧ p.state = .opened
  onto : ∀ p ∈ followed, p = parent ∨ p.headRef ∈ followed.map (·.baseRef)
  root : snapshot.baseBranch ∈ followed.map (·.baseRef)

/-- The branches that were targeted so far are the ones a walk must not come back to. -/
theorem Followed.headRef_not_mem (h : Followed snapshot followed parent)
    (hreturns : ¬ Returns snapshot followed parent) :
    parent.headRef ∉ followed.map (·.baseRef) := by
  intro hmem
  obtain ⟨p, hp, hbase⟩ := List.mem_map.mp hmem
  obtain ⟨hsnapshot, hopened⟩ := h.opened p hp
  exact hreturns ⟨p, mem_openChildren.mpr ⟨hsnapshot, hopened, hbase⟩, List.mem_map_of_mem hp⟩

/-- Following the child of the parent keeps the account. -/
theorem Followed.step (h : Followed snapshot followed parent)
    (hleft : unfollowed snapshot followed parent.headRef = [child])
    (hready : stackChildReasons policy snapshot child = []) :
    Followed snapshot (child :: followed) child := by
  have hchild := mem_unfollowed.mp (hleft ▸ List.mem_singleton_self child)
  refine ⟨fun p hp => ?_, fun p hp => ?_, List.mem_cons_of_mem _ h.root⟩
  · rcases List.mem_cons.mp hp with rfl | hp
    · exact ⟨hchild.1, (stackMember_of_childReasons hready).opened⟩
    · exact h.opened p hp
  · rcases List.mem_cons.mp hp with rfl | hp
    · exact .inl rfl
    · right
      rcases h.onto p hp with rfl | honto
      · rw [List.map_cons, hchild.2.2]
        exact List.mem_cons_self
      · exact List.mem_cons_of_mem _ honto

/-- The child's branch is a new one. -/
theorem Followed.head_new (h : Followed snapshot (child :: followed) child)
    (hreturns : ¬ Returns snapshot (child :: followed) child) (p : MergeTrainPullRequestSnapshot)
    (hp : p ∈ followed) (hother : p ≠ child) : p.headRef ≠ child.headRef := by
  intro hsame
  apply h.headRef_not_mem hreturns
  rw [← hsame]
  exact (h.onto p (List.mem_cons_of_mem _ hp)).resolve_left hother

/-- What is left on a branch is what is open on it, unless something there was followed. -/
theorem openChildren_eq_unfollowed (hreturns : ¬ Returns snapshot followed parent)
    (hopened : ∀ p ∈ unfollowed snapshot followed parent.headRef, p.state = .opened) :
    openChildren snapshot parent.headRef = unfollowed snapshot followed parent.headRef := by
  refine List.filter_congr fun p hp => decide_eq_decide.mpr ⟨?_, ?_⟩
  · intro ⟨hopen, hbase⟩
    refine ⟨fun hfollowed => ?_, hbase⟩
    exact hreturns ⟨p, mem_openChildren.mpr ⟨hp, hopen, hbase⟩, hfollowed⟩
  · intro ⟨hnew, hbase⟩
    exact ⟨hopened p (mem_unfollowed.mpr ⟨hp, hnew, hbase⟩), hbase⟩

/-- Over a walk the branches have one open child each exactly when none is returned to. -/
theorem StackPath.neverReturns_iff (path : StackPath policy snapshot followed parent children) :
    NeverReturns snapshot followed parent children ↔
      OneChildEach snapshot ((parent :: children).map (·.headRef)) := by
  induction path with
  | @leaf followed parent hleft =>
    show ¬ Returns snapshot followed parent ↔ openChildren snapshot parent.headRef = []
    refine ⟨fun hreturns => ?_, fun hnone => ?_⟩
    · rw [openChildren_eq_unfollowed hreturns (by simp [hleft]), hleft]
    · intro ⟨other, hother, _⟩
      rw [hnone] at hother
      cases hother
  | @child followed rest parent child hleft hready path ih =>
    have hchild := mem_unfollowed.mp (hleft ▸ List.mem_singleton_self child)
    have hopened := (stackMember_of_childReasons hready).opened
    show ¬ Returns snapshot followed parent ∧ NeverReturns snapshot (child :: followed) child rest ↔
      (openChildren snapshot parent.headRef).length = 1 ∧
        OneChildEach snapshot ((child :: rest).map (·.headRef))
    rw [ih]
    refine and_congr_left fun _ => ⟨fun hreturns => ?_, fun hone => ?_⟩
    · rw [openChildren_eq_unfollowed hreturns (by simpa [hleft] using hopened), hleft]
      rfl
    · -- the only open child is the one that was not followed yet
      intro ⟨other, hother, hfollowed⟩
      obtain ⟨only, honly⟩ := List.length_eq_one_iff.mp hone
      have hmem := mem_openChildren.mpr ⟨hchild.1, hopened, hchild.2.2⟩
      rw [honly, List.mem_singleton] at hother hmem
      rw [hother, ← hmem] at hfollowed
      exact hchild.2.1 hfollowed

theorem StackPath.linked (path : StackPath policy snapshot followed parent children) :
    Linked (·.baseRef) (·.headRef) parent.headRef children := by
  induction path with
  | leaf => trivial
  | child hleft hready path ih =>
    exact ⟨(mem_unfollowed.mp (hleft ▸ List.mem_singleton_self _)).2.2, ih⟩

/-- The members of a walk are new, and no two of them have the same number. -/
theorem StackPath.numbers (path : StackPath policy snapshot followed parent children) :
    (children.map (·.number)).Nodup ∧
      ∀ c ∈ children, c.number ∉ followed.map (·.number) := by
  induction path with
  | leaf => simp
  | @child followed rest parent child hleft hready path ih =>
    have hchild := mem_unfollowed.mp (hleft ▸ List.mem_singleton_self child)
    obtain ⟨hnodup, hnew⟩ := ih
    refine ⟨List.nodup_cons.mpr ⟨fun hmem => ?_, hnodup⟩, fun c hc => ?_⟩
    · obtain ⟨c, hc, hsame⟩ := List.mem_map.mp hmem
      exact hnew c hc (by rw [hsame]; exact List.mem_cons_self)
    · rcases List.mem_cons.mp hc with rfl | hc
      · exact hchild.2.1
      · exact fun hmem => hnew c hc (List.mem_cons_of_mem _ hmem)

/-- A walk that never returns meets no branch twice. -/
theorem StackPath.heads (path : StackPath policy snapshot followed parent children)
    (hfollowed : Followed snapshot followed parent)
    (hreturns : NeverReturns snapshot followed parent children) :
    (children.map (·.headRef)).Nodup ∧
      ∀ c ∈ children, ∀ p ∈ followed, p.headRef ≠ c.headRef := by
  induction path with
  | leaf => simp
  | @child followed rest parent child hleft hready path ih =>
    have hchild := mem_unfollowed.mp (hleft ▸ List.mem_singleton_self child)
    have hstep := hfollowed.step hleft hready
    obtain ⟨hnodup, hnew⟩ := ih hstep hreturns.2
    refine ⟨List.nodup_cons.mpr ⟨fun hmem => ?_, hnodup⟩, fun c hc p hp => ?_⟩
    · obtain ⟨c, hc, hsame⟩ := List.mem_map.mp hmem
      exact hnew c hc child List.mem_cons_self hsame.symm
    · rcases List.mem_cons.mp hc with rfl | hc
      · refine hstep.head_new hreturns.2.here p hp ?_
        rintro rfl
        exact hchild.2.1 (List.mem_map_of_mem hp)
      · exact hnew c hc p (List.mem_cons_of_mem _ hp)

/-- Nor does it come to the base branch. -/
theorem StackPath.offBase (path : StackPath policy snapshot followed parent children)
    (hfollowed : Followed snapshot followed parent)
    (hreturns : NeverReturns snapshot followed parent children) :
    ∀ p ∈ parent :: children, p.headRef ≠ snapshot.baseBranch := by
  have hparent : parent.headRef ≠ snapshot.baseBranch := fun hbase =>
    hfollowed.headRef_not_mem hreturns.here (hbase ▸ hfollowed.root)
  induction path with
  | leaf => simpa using hparent
  | @child followed rest parent child hleft hready path ih =>
    have hstep := hfollowed.step hleft hready
    have hchild : child.headRef ≠ snapshot.baseBranch := fun hbase =>
      hstep.headRef_not_mem hreturns.2.here (hbase ▸ hstep.root)
    intro p hp
    rcases List.mem_cons.mp hp with rfl | hp
    · exact hparent
    · exact ih hstep hreturns.2 hchild p hp

/-- Off the base branch, the members that link up do not target it. -/
theorem baseRef_ne_of_linked {k : String} {children : List MergeTrainPullRequestSnapshot}
    (hlinked : Linked (·.baseRef) (·.headRef) k children) (hk : k ≠ snapshot.baseBranch)
    (hoff : ∀ p ∈ children, p.headRef ≠ snapshot.baseBranch) :
    ∀ p ∈ children, p.baseRef ≠ snapshot.baseBranch := by
  induction children generalizing k with
  | nil => simp
  | cons child rest ih =>
    obtain ⟨hbase, hlinked⟩ := hlinked
    intro p hp
    rcases List.mem_cons.mp hp with rfl | hp
    · exact fun h => hk (hbase ▸ h)
    · exact ih hlinked (hoff child List.mem_cons_self)
        (fun p hp => hoff p (List.mem_cons_of_mem _ hp)) p hp

/-- The root alone is an account of what was followed. -/
theorem followed_root (hmem : root ∈ snapshot.pullRequests) (hopened : root.state = .opened)
    (hbase : root.baseRef = snapshot.baseBranch) : Followed snapshot [root] root := by
  refine ⟨fun p hp => ?_, fun p hp => .inl (List.mem_singleton.mp hp), by simp [hbase]⟩
  rw [List.mem_singleton.mp hp]
  exact ⟨hmem, hopened⟩

end

/-! ### Discovery -/

/-- The root of the stack: the pull request of that number, when it can be one. -/
structure StackRoot (snapshot : MergeTrainDryRunSnapshot) (rootPullRequestNumber : Nat)
    (root : MergeTrainPullRequestSnapshot) : Prop where
  found : snapshot.pullRequests.reverse.find? (·.number = rootPullRequestNumber) = some root
  accepted : stackPullRequestReasons snapshot root = []
  onBase : root.baseRef = snapshot.baseBranch

/-- A walk from a root that is worth collapsing. -/
structure ReadyWalk (policy : MergeTrainRepositoryPolicy) (snapshot : MergeTrainDryRunSnapshot)
    (rootPullRequestNumber : Nat) (root : MergeTrainPullRequestSnapshot)
    (children : List MergeTrainPullRequestSnapshot) : Prop where
  start : StackRoot snapshot rootPullRequestNumber root
  path : StackPath policy snapshot [root] root children
  stacked : children ≠ []
  /-- No member has to land alone. -/
  together : ∀ p ∈ root :: children, p.requiresIndividualLanding = false

section

variable {policy : MergeTrainRepositoryPolicy} {snapshot : MergeTrainDryRunSnapshot}
  {rootPullRequestNumber : Nat} {root : MergeTrainPullRequestSnapshot}
  {children : List MergeTrainPullRequestSnapshot}

theorem unseen_root : withoutNumber root.number snapshot.pullRequests =
    snapshot.pullRequests.filter (fun p => p.number ∉ [root].map (·.number)) := by
  simp [withoutNumber]

/-- The entries of a walk that never returns are a genuine stack. -/
theorem genuineStack_of_neverReturns
    (walk : ReadyWalk policy snapshot rootPullRequestNumber root children)
    (hreturns : NeverReturns snapshot [root] root children) :
    GenuineStack snapshot ((root :: children).map stackEntry) := by
  have hmem : root ∈ snapshot.pullRequests :=
    List.mem_reverse.mp (List.mem_of_find?_eq_some walk.start.found)
  have hfollowed := followed_root hmem (stackMember_of_reasons walk.start.accepted).opened
    walk.start.onBase
  obtain ⟨hnumbers, hnew⟩ := walk.path.numbers
  obtain ⟨hheads, hother⟩ := walk.path.heads hfollowed hreturns
  have hoff := walk.path.offBase hfollowed hreturns
  have hlinked := walk.path.linked
  constructor
  case numbers =>
    simp only [List.map_map, List.map_cons, List.nodup_cons]
    refine ⟨fun hmem => ?_, hnumbers⟩
    obtain ⟨c, hc, hsame⟩ := List.mem_map.mp hmem
    exact hnew c hc (by simpa using hsame)
  case heads =>
    simp only [List.map_map, List.map_cons, List.nodup_cons]
    refine ⟨fun hmem => ?_, hheads⟩
    obtain ⟨c, hc, hsame⟩ := List.mem_map.mp hmem
    exact hother c hc root (by simp) hsame.symm
  case linked =>
    rw [linked_map]
    exact ⟨walk.start.onBase, hlinked⟩
  case offBase =>
    simpa using hoff
  case onlyRoot =>
    simpa using baseRef_ne_of_linked hlinked (hoff root (by simp)) fun p hp =>
      hoff p (List.mem_cons_of_mem _ hp)
  case oneChild =>
    rw [List.map_map]
    exact walk.path.neverReturns_iff.mp hreturns

/-- A walk from a root is what discovery reports. -/
theorem discoverMergeTrainStack_of_readyWalk
    (walk : ReadyWalk policy snapshot rootPullRequestNumber root children) :
    discoverMergeTrainStack policy snapshot rootPullRequestNumber =
      { status := .readyForCollapse
        repository := snapshot.repository
        baseBranch := snapshot.baseBranch
        rootPullRequestNumber
        stackOrder := (root :: children).map (·.number)
        entries := (root :: children).map stackEntry } := by
  have hmember := stackMember_of_reasons walk.start.accepted
  have hchain := (stackChain_eq_ok hmember.named).mpr walk.path
  have halone : ((root :: children).any (·.requiresIndividualLanding)) = false := by
    simpa using walk.together
  have hlength : (root :: children).length ≠ 1 := by simpa using walk.stacked
  unfold discoverMergeTrainStack
  rw [walk.start.found]
  simp only [walk.start.accepted, walk.start.onBase, unseen_root, hchain]
  simp only [reasonIf, ne_eq, not_true_eq_false, if_false, List.append_nil, halone, hlength,
    Bool.false_eq_true]

/-- Nothing else is reported as ready. -/
theorem readyWalk_of_ready
    (h : (discoverMergeTrainStack policy snapshot rootPullRequestNumber).status =
      .readyForCollapse) :
    ∃ root children, ReadyWalk policy snapshot rootPullRequestNumber root children := by
  unfold discoverMergeTrainStack at h
  split at h
  case h_1 => cases h
  case h_2 root hfound =>
    dsimp only at h
    split at h
    case isTrue => cases h
    case isFalse hreasons =>
      obtain ⟨haccepted, honBase⟩ := List.append_eq_nil_iff.mp (not_not.mp hreasons)
      have honBase := not_not.mp (reasonIf_eq_nil.mp honBase)
      rw [unseen_root] at h
      split at h
      case h_1 => cases h
      case h_2 children hchain =>
        have hmember := stackMember_of_reasons haccepted
        have path := (stackChain_eq_ok hmember.named).mp hchain
        refine ⟨root, children, ⟨hfound, haccepted, honBase⟩, path, ?_, ?_⟩
        · rintro rfl
          simp at h
        · intro p hp
          by_contra halone
          have hany : ((root :: children).any (·.requiresIndividualLanding)) = true :=
            List.any_eq_true.mpr ⟨p, hp, by simpa using halone⟩
          simp [hany] at h

end

/-! ### The branches of the snapshot -/

/-- The open pull requests that hang on a root, each one on the head of the one before: the trails
that end with them, last first. -/
inductive StackTrail (snapshot : MergeTrainDryRunSnapshot) (root : MergeTrainPullRequestSnapshot) :
    List MergeTrainPullRequestSnapshot → Prop
  | root : StackTrail snapshot root [root]
  | child {last child : MergeTrainPullRequestSnapshot}
      {passed : List MergeTrainPullRequestSnapshot}
      (trail : StackTrail snapshot root (last :: passed))
      (hchild : child ∈ openChildren snapshot last.headRef) :
      StackTrail snapshot root (child :: last :: passed)

/-- The last pull request of a trail leads back: to the base branch or to a branch that was passed
before, or its number was passed before. -/
def LeadsBack (snapshot : MergeTrainDryRunSnapshot) : List MergeTrainPullRequestSnapshot → Prop
  | [] => False
  | last :: passed => last.headRef = snapshot.baseBranch ∨
      last.headRef ∈ passed.map (·.headRef) ∨ last.number ∈ passed.map (·.number)

/-- No open pull request that hangs on the root leads back. -/
def NeverLeadsBack (snapshot : MergeTrainDryRunSnapshot) (root : MergeTrainPullRequestSnapshot) :
    Prop :=
  ∀ trail, StackTrail snapshot root trail → ¬ LeadsBack snapshot trail

section

variable {policy : MergeTrainRepositoryPolicy} {snapshot : MergeTrainDryRunSnapshot}
  {rootPullRequestNumber : Nat} {root parent : MergeTrainPullRequestSnapshot}
  {passed children : List MergeTrainPullRequestSnapshot}

/-- A walk along which nothing leads back does not return. -/
theorem StackPath.neverReturns (path : StackPath policy snapshot (parent :: passed) parent children)
    (trail : StackTrail snapshot root (parent :: passed)) (hnever : NeverLeadsBack snapshot root) :
    NeverReturns snapshot (parent :: passed) parent children := by
  have hhere (trail : StackTrail snapshot root (parent :: passed)) :
      ¬ Returns snapshot (parent :: passed) parent := fun ⟨other, hother, hseen⟩ =>
    hnever _ (.child trail hother) (.inr (.inr hseen))
  generalize hfollowed : parent :: passed = followed at path trail hhere
  induction path generalizing passed with
  | leaf => exact hhere trail
  | @child followed rest parent child hleft hready path ih =>
    subst hfollowed
    have hchild := mem_unfollowed.mp (hleft ▸ List.mem_singleton_self child)
    have hopen : child ∈ openChildren snapshot parent.headRef :=
      mem_openChildren.mpr ⟨hchild.1, (stackMember_of_childReasons hready).opened, hchild.2.2⟩
    exact ⟨hhere trail, ih rfl (.child trail hopen) fun trail ⟨other, hother, hfollowed⟩ =>
      hnever _ (.child trail hother) (.inr (.inr hfollowed))⟩

/-- On a walk that never returns, the open pull requests on a branch are the next one of the walk. -/
theorem StackPath.eq_next {followed : List MergeTrainPullRequestSnapshot}
    (path : StackPath policy snapshot followed parent children)
    (hreturns : NeverReturns snapshot followed parent children)
    {before after : List MergeTrainPullRequestSnapshot} {p child : MergeTrainPullRequestSnapshot}
    (hsplit : parent :: children = before ++ p :: after)
    (hchild : child ∈ openChildren snapshot p.headRef) : ∃ rest, after = child :: rest := by
  have hnew {followed : List MergeTrainPullRequestSnapshot} {parent : MergeTrainPullRequestSnapshot}
      (hreturns : ¬ Returns snapshot followed parent)
      (hchild : child ∈ openChildren snapshot parent.headRef) :
      child ∈ unfollowed snapshot followed parent.headRef := by
    obtain ⟨hmem, -, hbase⟩ := mem_openChildren.mp hchild
    exact mem_unfollowed.mpr ⟨hmem, fun hseen => hreturns ⟨child, hchild, hseen⟩, hbase⟩
  induction path generalizing before with
  | leaf hleft =>
    cases before with
    | nil =>
      obtain ⟨rfl, rfl⟩ := List.cons.inj hsplit
      have hmem := hnew hreturns hchild
      rw [hleft] at hmem
      exact absurd hmem List.not_mem_nil
    | cons first before => simp at hsplit
  | @child followed rest parent next hleft hready path ih =>
    cases before with
    | nil =>
      obtain ⟨rfl, rfl⟩ := List.cons.inj hsplit
      have hmem := hnew hreturns.1 hchild
      rw [hleft, List.mem_singleton] at hmem
      exact ⟨rest, by rw [hmem]⟩
    | cons first before => exact ih hreturns.2 (List.cons.inj hsplit).2

/-- The trails are then the beginnings of the walk. -/
theorem StackTrail.isPrefix (path : StackPath policy snapshot [root] root children)
    (hreturns : NeverReturns snapshot [root] root children)
    {trail : List MergeTrainPullRequestSnapshot} (h : StackTrail snapshot root trail) :
    ∃ rest, root :: children = trail.reverse ++ rest := by
  induction h with
  | root => exact ⟨children, rfl⟩
  | @child last child passed trail hchild ih =>
    obtain ⟨rest, hrest⟩ := ih
    have hsplit : root :: children = passed.reverse ++ last :: rest := by
      simpa using hrest
    obtain ⟨rest', rfl⟩ := path.eq_next hreturns hsplit hchild
    exact ⟨rest', by simpa using hrest⟩

/-- **Nothing leads back exactly where the walk does not return.** -/
theorem ReadyWalk.neverLeadsBack_iff
    (walk : ReadyWalk policy snapshot rootPullRequestNumber root children) :
    NeverLeadsBack snapshot root ↔ NeverReturns snapshot [root] root children := by
  refine ⟨walk.path.neverReturns .root, fun hreturns trail htrail hback => ?_⟩
  have hgenuine := genuineStack_of_neverReturns walk hreturns
  obtain ⟨rest, hrest⟩ := htrail.isPrefix walk.path hreturns
  have hnumbers := hgenuine.numbers
  have hheads := hgenuine.heads
  rw [List.map_map, hrest] at hnumbers hheads
  cases trail with
  | nil => exact hback
  | cons last passed =>
    rcases hback with hbase | hhead | hnumber
    · have hmem : last ∈ root :: children := by
        rw [hrest]
        simp
      exact hgenuine.offBase (stackEntry last) (List.mem_map_of_mem hmem) hbase
    · obtain ⟨p, hp, hsame⟩ := List.mem_map.mp hhead
      simp only [List.reverse_cons, List.append_assoc, List.map_append, List.map_cons] at hheads
      exact (List.disjoint_of_nodup_append hheads)
        (List.mem_map_of_mem (List.mem_reverse.mpr hp)) (by simp [hsame])
    · obtain ⟨p, hp, hsame⟩ := List.mem_map.mp hnumber
      simp only [List.reverse_cons, List.append_assoc, List.map_append, List.map_cons] at hnumbers
      exact (List.disjoint_of_nodup_append hnumbers)
        (List.mem_map_of_mem (List.mem_reverse.mpr hp)) (by simp [hsame])

end

/-- **What discovery reports as ready** is a genuine stack exactly when no open pull request that
hangs on the root leads back. -/
theorem discoverMergeTrainStack_genuine_iff (policy : MergeTrainRepositoryPolicy)
    (snapshot : MergeTrainDryRunSnapshot) (rootPullRequestNumber : Nat)
    (hready : (discoverMergeTrainStack policy snapshot rootPullRequestNumber).status =
      .readyForCollapse) :
    GenuineStack snapshot (discoverMergeTrainStack policy snapshot rootPullRequestNumber).entries ↔
      ∀ root ∈ snapshot.pullRequests.reverse.find? (·.number = rootPullRequestNumber),
        NeverLeadsBack snapshot root := by
  obtain ⟨root, children, walk⟩ := readyWalk_of_ready hready
  rw [discoverMergeTrainStack_of_readyWalk walk, walk.start.found]
  simp only [Option.mem_def, Option.some.injEq, forall_eq', walk.neverLeadsBack_iff]
  refine ⟨fun hgenuine => ?_, genuineStack_of_neverReturns walk⟩
  have hone := hgenuine.oneChild
  rw [List.map_map] at hone
  exact walk.path.neverReturns_iff.mpr hone

/-! ### A root that is pulled in -/

/-- A ready pull request from `head` to `base`. -/
def stackedExample (number : Nat) (head base : String) : MergeTrainPullRequestSnapshot :=
  { number
    createdAt := "2026-05-01T09:00:00Z"
    labels := ["merge-train"]
    labelActors := [{ label := "merge-train", actorId := some 7, actorLogin := "maintainer",
                      actorRole := "maintainer" }]
    actorId := some 7
    actorRole := "maintainer"
    headSha := "0123456789abcdef0123456789abcdef01234567"
    headRef := head
    headRepository := "example/repo"
    baseSha := "89abcdef0123456789abcdef0123456789abcdef"
    baseRef := base
    baseRepository := "example/repo"
    mergeable := .mergeable
    requiredChecksStatus := .pass }

/-- A merge-back of the base into a feature branch, and another pull request to the base. -/
def mergeBackSnapshot : MergeTrainDryRunSnapshot :=
  { repository := "example/repo"
    baseBranch := "main"
    pullRequests :=
      [stackedExample 1 "feature-a" "main", stackedExample 2 "main" "feature-a",
        stackedExample 3 "feature-b" "main"] }

def stackedPolicy : MergeTrainRepositoryPolicy :=
  { repository := "example/repo"
    baseBranch := "main"
    enqueueLabel := "merge-train"
    blockedLabel := "merge-train-blocked"
    mergeMethod := .merge
    failurePolicy := .pauseTrain
    enqueue := { allowedActorRoles := ["maintainer"] } }

/-- The walk goes from the feature branch back to the base, and on to the other root. -/
theorem readyWalk_mergeBack : ReadyWalk stackedPolicy mergeBackSnapshot 1
    (stackedExample 1 "feature-a" "main")
    [stackedExample 2 "main" "feature-a", stackedExample 3 "feature-b" "main"] where
  start := ⟨by decide +kernel, by decide +kernel, rfl⟩
  path :=
    .child (by decide +kernel) (by decide +kernel)
      (.child (by decide +kernel) (by decide +kernel) (.leaf (by decide +kernel)))
  stacked := by simp
  together := by decide

theorem discoverMergeTrainStack_mergeBack :
    (discoverMergeTrainStack stackedPolicy mergeBackSnapshot 1).status = .readyForCollapse ∧
      (discoverMergeTrainStack stackedPolicy mergeBackSnapshot 1).stackOrder = [1, 2, 3] ∧
        ¬ GenuineStack mergeBackSnapshot
          (discoverMergeTrainStack stackedPolicy mergeBackSnapshot 1).entries := by
  rw [discoverMergeTrainStack_of_readyWalk readyWalk_mergeBack]
  refine ⟨rfl, rfl, fun hgenuine => ?_⟩
  exact hgenuine.offBase (stackEntry (stackedExample 2 "main" "feature-a")) (by simp) rfl

/-- Three branches on one another, and another root of the train. -/
def stackedSnapshot : MergeTrainDryRunSnapshot :=
  { mergeBackSnapshot with
    pullRequests :=
      [stackedExample 1 "feature-a" "main", stackedExample 2 "feature-b" "feature-a",
        stackedExample 3 "feature-c" "feature-b", stackedExample 4 "feature-d" "main"] }

theorem neverLeadsBack_stackedSnapshot :
    NeverLeadsBack stackedSnapshot (stackedExample 1 "feature-a" "main") := by
  intro trail htrail
  have htrails : trail ∈ [[stackedExample 1 "feature-a" "main"],
      [stackedExample 2 "feature-b" "feature-a", stackedExample 1 "feature-a" "main"],
      [stackedExample 3 "feature-c" "feature-b", stackedExample 2 "feature-b" "feature-a",
        stackedExample 1 "feature-a" "main"]] := by
    have hfirst : openChildren stackedSnapshot "feature-a" =
        [stackedExample 2 "feature-b" "feature-a"] := by decide +kernel
    have hsecond : openChildren stackedSnapshot "feature-b" =
        [stackedExample 3 "feature-c" "feature-b"] := by decide +kernel
    have hthird : openChildren stackedSnapshot "feature-c" = [] := by decide +kernel
    induction htrail with
    | root => simp
    | @child last child passed trail hchild ih =>
      simp only [List.mem_cons, List.not_mem_nil, or_false] at ih
      rcases ih with hpassed | hpassed | hpassed
      · obtain ⟨rfl, rfl⟩ := List.cons.inj hpassed
        have hnext : child ∈ openChildren stackedSnapshot "feature-a" := hchild
        rw [hfirst, List.mem_singleton] at hnext
        simp [hnext]
      · obtain ⟨rfl, rfl⟩ := List.cons.inj hpassed
        have hnext : child ∈ openChildren stackedSnapshot "feature-b" := hchild
        rw [hsecond, List.mem_singleton] at hnext
        simp [hnext]
      · obtain ⟨rfl, rfl⟩ := List.cons.inj hpassed
        have hnext : child ∈ openChildren stackedSnapshot "feature-c" := hchild
        rw [hthird] at hnext
        exact absurd hnext List.not_mem_nil
  simp only [List.mem_cons, List.not_mem_nil, or_false] at htrails
  rcases htrails with rfl | rfl | rfl <;> simp [LeadsBack, stackedExample, stackedSnapshot,
    mergeBackSnapshot]

/-- Three branches on one another are a stack; with the merge-back they are none, for that one leads
back to the base. -/
theorem discoverMergeTrainStack_genuine_sample :
    GenuineStack stackedSnapshot (discoverMergeTrainStack stackedPolicy stackedSnapshot 1).entries ∧
      (discoverMergeTrainStack stackedPolicy stackedSnapshot 1).stackOrder = [1, 2, 3] ∧
      ¬ GenuineStack mergeBackSnapshot
        (discoverMergeTrainStack stackedPolicy mergeBackSnapshot 1).entries := by
  have hready : (discoverMergeTrainStack stackedPolicy stackedSnapshot 1).status =
      .readyForCollapse := by decide +kernel
  have hreturned : (discoverMergeTrainStack stackedPolicy mergeBackSnapshot 1).status =
      .readyForCollapse := by
    rw [discoverMergeTrainStack_of_readyWalk readyWalk_mergeBack]
  have hroot : stackedSnapshot.pullRequests.reverse.find? (·.number = 1) =
      some (stackedExample 1 "feature-a" "main") := by decide +kernel
  have hroot' : mergeBackSnapshot.pullRequests.reverse.find? (·.number = 1) =
      some (stackedExample 1 "feature-a" "main") := by decide +kernel
  refine ⟨(discoverMergeTrainStack_genuine_iff stackedPolicy stackedSnapshot 1 hready).mpr ?_,
    by decide +kernel, fun hgenuine => ?_⟩
  · intro root hmem
    obtain rfl := Option.some.inj (hroot.symm.trans hmem)
    exact neverLeadsBack_stackedSnapshot
  · have hnever := (discoverMergeTrainStack_genuine_iff stackedPolicy mergeBackSnapshot 1
      hreturned).mp hgenuine _ hroot'
    have htrail : StackTrail mergeBackSnapshot (stackedExample 1 "feature-a" "main")
        [stackedExample 2 "main" "feature-a", stackedExample 1 "feature-a" "main"] :=
      .child .root (by decide +kernel)
    exact hnever _ htrail (.inl rfl)

end Launchplane.MergeTrain
