import AindyRuntime.Memory.Tenants

/-! # What a traversal finds

`MemoryNodeDAO.traverse` shares one `visited` set over all branches of a search
that is cut at `max_depth`: a node that is reached first at that depth is never
expanded, however near it is by another link.
-/

namespace AindyRuntime.Memory

open List

/-- A traversal from a node that is given by its canonical id. -/
structure Search (Uuid Weight : Type) where
  caller : Caller Uuid
  db : Database Uuid Weight
  linkType : String
  minStrength : Weight
  start : Uuid

namespace Search

variable {Uuid Weight : Type} (search : Search Uuid Weight)

def text (id : Uuid) : String := search.caller.uuids.text id

theorem text_inj {id : Uuid} : search.text id = search.text other ↔ id = other := by
  refine ⟨fun same => ?_, congrArg _⟩
  have parsed := congrArg search.caller.uuids.parse? same
  simp only [text, search.caller.uuids.parse?_text] at parsed
  exact Option.some.inj parsed

variable [DecidableEq Uuid]

theorem found_id {id : Uuid} (found : getModelById search.caller search.db (search.text id) = some node) :
    node.id = id := by
  have parsed := (getModelById_found found).2.1
  rw [text, search.caller.uuids.parse?_text] at parsed
  exact (Option.some.inj parsed).symm

variable [LinearOrder Weight]

def Visible (id : Uuid) : Prop := (getModelById search.caller search.db (search.text id)).isSome = true

def links (id : Uuid) : List (MemoryLink Uuid Weight) :=
  followed search.db search.linkType search.minStrength id

/-- A walk of that many permitted links through visible nodes. -/
inductive Within : Nat → Uuid → Prop where
  | start : search.Visible search.start → Within 0 search.start
  | step : Within hops source → link ∈ search.links source → search.Visible link.target →
      Within (hops + 1) link.target

/-- The nodes of a walk that passes each of them once, the last one first. -/
inductive Route : List Uuid → Prop where
  | start : search.Visible search.start → Route [search.start]
  | step : Route (source :: passed) → link ∈ search.links source → search.Visible link.target →
      link.target ∉ source :: passed → Route (link.target :: source :: passed)

def chain (maxDepth : Int) : List (ChainEntry Uuid Weight) :=
  (traverse search.caller search.db (search.text search.start) maxDepth search.linkType search.minStrength).chain

def explore (room depth : Nat) (nodeId : String) (path : List (Hop Weight))
    (trail : Trail Uuid Weight) (links : List (MemoryLink Uuid Weight)) : Trail Uuid Weight :=
  links.foldl (fun trail link =>
    if search.text link.target ∈ trail.visited then trail
    else dfs search.caller search.db search.linkType search.minStrength room (depth + 1) (search.text link.target)
      (path ++ [⟨nodeId, link.linkType, link.weight⟩]) trail) trail

def recorded (trail : Trail Uuid Weight) : List Uuid := search.start :: trail.chain.map fun entry => entry.node.id

/-- Every entry is the end of a route of that many links through nodes that are marked. -/
structure Sound (limit : Nat) (trail : Trail Uuid Weight) : Prop where
  reached : ∀ entry ∈ trail.chain, entry.depth < limit ∧ ∃ passed, search.Route (entry.node.id :: passed) ∧
    passed.length = entry.depth ∧ ∀ other ∈ passed, search.text other ∈ trail.visited
  once : (search.recorded trail).Nodup
  visited : ∀ id, search.Visible id → (search.text id ∈ trail.visited ↔ id ∈ search.recorded trail)

/-- What a part of the search adds: of a new entry above the last depth, every
link has been followed. -/
structure Searched (limit : Nat) (before after : Trail Uuid Weight) : Prop where
  sound : search.Sound limit before → search.Sound limit after
  visited : before.visited ⊆ after.visited
  expanded : ∀ entry ∈ after.chain, entry ∉ before.chain → entry.depth + 1 < limit →
    ∀ link ∈ search.links entry.node.id, search.text link.target ∈ after.visited

variable {search} {limit : Nat} {trail before middle after : Trail Uuid Weight} {id : Uuid}

theorem Searched.refl : search.Searched limit trail trail :=
  ⟨fun sound => sound, fun _ member => member, fun _ member new => absurd member new⟩

theorem Searched.trans (first : search.Searched limit before middle)
    (second : search.Searched limit middle after) : search.Searched limit before after := by
  refine ⟨fun sound => second.sound (first.sound sound), fun _ old => second.visited (first.visited old), ?_⟩
  intro entry member new above link followed
  by_cases early : entry ∈ middle.chain
  · exact second.visited (first.expanded entry early new above link followed)
  · exact second.expanded entry member early above link followed

theorem Sound.reached_marked (sound : search.Sound limit trail) (member : entry ∈ trail.chain) :
    entry.depth < limit ∧ ∃ passed, search.Route (entry.node.id :: passed) ∧ passed.length = entry.depth ∧
      ∀ other ∈ passed, search.text other ∈ mark :: trail.visited := by
  obtain ⟨shallow, passed, route, far, marked⟩ := sound.reached entry member
  exact ⟨shallow, passed, route, far, fun other past => mem_cons_of_mem _ (marked other past)⟩

/-- A node that cannot be seen is marked, and that is all. -/
theorem searched_marked (unseen : ¬ search.Visible id) :
    search.Searched limit trail { trail with visited := search.text id :: trail.visited } := by
  refine ⟨fun sound => ⟨fun entry => sound.reached_marked, sound.once, fun other visible => ?_⟩,
    fun _ old => mem_cons_of_mem _ old, fun _ member new => absurd member new⟩
  rw [mem_cons, text_inj, or_iff_right fun same : other = id => unseen (same ▸ visible)]
  exact sound.visited other visible

theorem sound_entered (sound : search.Sound limit trail) (fresh : search.text id ∉ trail.visited)
    (visible : search.Visible id) (room : depth < limit) (route : search.Route (id :: passed))
    (far : passed.length = depth) (marked : ∀ other ∈ passed, search.text other ∈ trail.visited) (same : dict.id = id) :
    search.Sound limit ⟨search.text id :: trail.visited, trail.chain ++ [⟨depth, dict, path⟩]⟩ := by
  subst same
  have grown : search.recorded ⟨search.text dict.id :: trail.visited, trail.chain ++ [⟨depth, dict, path⟩]⟩ =
      search.recorded trail ++ [dict.id] := by simp [recorded]
  refine ⟨fun entry member => ?_, ?_, fun other visible => ?_⟩
  · rcases mem_append.mp member with member | member
    · exact sound.reached_marked member
    · rw [mem_singleton.mp member]
      exact ⟨room, passed, route, far, fun other past => mem_cons_of_mem _ (marked other past)⟩
  · rw [grown, nodup_append_comm]
    exact nodup_cons.mpr ⟨fun member => fresh ((sound.visited _ visible).mpr member), sound.once⟩
  · rw [grown, mem_append, mem_singleton, mem_cons, text_inj, sound.visited other visible, or_comm]

/-- From the end of a route through marked nodes a link is followed to a node that is then marked. -/
def Explores (search : Search Uuid Weight) (limit room depth : Nat) : Prop :=
  ∀ source passed link path trail, search.Route (source :: passed) → passed.length = depth →
    (∀ other ∈ source :: passed, search.text other ∈ trail.visited) → link ∈ search.links source →
    let after := dfs search.caller search.db search.linkType search.minStrength room (depth + 1)
      (search.text link.target) path trail
    search.Searched limit trail after ∧ (0 < room → search.text link.target ∈ after.visited)

theorem explore_searched (explores : search.Explores limit room depth) (route : search.Route (source :: passed))
    (far : passed.length = depth) (marked : ∀ other ∈ source :: passed, search.text other ∈ trail.visited)
    (outgoing : ∀ link ∈ outward, link ∈ search.links source) :
    let after := search.explore room depth nodeId path trail outward
    search.Searched limit trail after ∧
      (0 < room → ∀ link ∈ outward, search.text link.target ∈ after.visited) := by
  induction outward generalizing trail with
  | nil => exact ⟨.refl, fun _ link member => nomatch member⟩
  | cons link rest ih =>
      obtain ⟨middle, same, first, entered⟩ : ∃ middle, search.explore room depth nodeId path trail (link :: rest) =
          search.explore room depth nodeId path middle rest ∧ search.Searched limit trail middle ∧
            (0 < room → search.text link.target ∈ middle.visited) := by
        simp only [explore, foldl_cons]
        split
        case isTrue visited => exact ⟨trail, rfl, .refl, fun _ => visited⟩
        · exact ⟨_, rfl, explores source passed link _ trail route far marked (outgoing link mem_cons_self)⟩
      rw [same]
      obtain ⟨second, others⟩ := @ih middle (fun other past => first.visited (marked other past))
        fun other member => outgoing other (mem_cons_of_mem _ member)
      refine ⟨first.trans second, fun left other member => ?_⟩
      rcases mem_cons.mp member with rfl | member
      · exact second.visited (entered left)
      · exact others left other member

theorem dfs_found (fresh : search.text id ∉ trail.visited)
    (found : getModelById search.caller search.db (search.text id) = some node) :
    dfs search.caller search.db search.linkType search.minStrength (room + 1) depth (search.text id) path trail =
      search.explore room depth (search.text id) path
        (if depth = 0 then { trail with visited := search.text id :: trail.visited }
        else ⟨search.text id :: trail.visited, trail.chain ++ [⟨depth, node.toNodeDict, path⟩]⟩)
        (search.links id) := by
  rw [dfs, if_neg fresh]
  simp only [found, found_id search found]
  rfl

/-- By induction on the depths that are left. -/
theorem dfs_searched (limits : depth + 1 + room = limit) : search.Explores limit room depth := by
  induction room generalizing depth with
  | zero => exact fun _ _ _ _ _ _ _ _ _ => ⟨.refl, fun left => absurd left (lt_irrefl 0)⟩
  | succ room ih =>
      intro source passed link path trail route far marked followed
      by_cases visited : search.text link.target ∈ trail.visited
      · rw [dfs, if_pos visited]
        exact ⟨.refl, fun _ => visited⟩
      cases found : getModelById search.caller search.db (search.text link.target) with
      | none =>
          rw [dfs, if_neg visited]
          simp only [found]
          exact ⟨searched_marked (by simp [Visible, found]), fun _ => mem_cons_self⟩
      | some node =>
          have visible : search.Visible link.target := by rw [Visible, found]; rfl
          have longer := route.step followed visible fun past => visited (marked _ past)
          have farther : (source :: passed).length = depth + 1 := congrArg (· + 1) far
          have same := found_id search found
          rw [dfs_found visited found, if_neg (Nat.succ_ne_zero depth)]
          let entered : Trail Uuid Weight :=
            ⟨search.text link.target :: trail.visited, trail.chain ++ [⟨depth + 1, node.toNodeDict, path⟩]⟩
          have marks : ∀ other ∈ link.target :: source :: passed, search.text other ∈ entered.visited :=
            forall_mem_cons.mpr ⟨mem_cons_self, fun other past => mem_cons_of_mem _ (marked other past)⟩
          obtain ⟨searched, outward⟩ := explore_searched (ih (by omega)) longer farther marks fun _ member => member
          refine ⟨⟨fun sound => searched.sound
              (sound_entered sound visited visible (by omega) longer farther marked same),
            fun _ old => searched.visited (mem_cons_of_mem _ old), ?_⟩, fun _ => searched.visited mem_cons_self⟩
          intro entry member new above
          by_cases old : entry ∈ entered.chain
          · obtain rfl := mem_singleton.mp ((mem_append.mp old).resolve_left new)
            rw [show node.toNodeDict.id = link.target from same]
            exact outward (by simp only at above; omega)
          · exact searched.expanded entry member old above

variable {maxDepth : Int}

theorem Route.within (route : search.Route nodes) :
    ∃ id passed, nodes = id :: passed ∧ search.Within passed.length id := by
  induction route with
  | start visible => exact ⟨_, _, rfl, .start visible⟩
  | step _ followed visible _ ih =>
      obtain ⟨_, _, same, within⟩ := ih
      cases same
      exact ⟨_, _, rfl, within.step followed visible⟩

theorem Within.visible_start (within : search.Within hops id) : search.Visible search.start := by
  induction within with
  | start visible => exact visible
  | step _ _ _ ih => exact ih

/-- The links of a node above the last depth have been followed, those of the
start included. -/
theorem chain_searched (visible : search.Visible search.start) (limited : maxDepth = (room : Nat)) :
    ∃ trail, search.chain maxDepth = trail.chain ∧ search.Sound (room + 1) trail ∧
      (0 < room → ∀ link ∈ search.links search.start, search.text link.target ∈ trail.visited) ∧
      ∀ entry ∈ trail.chain, entry.depth < room →
        ∀ link ∈ search.links entry.node.id, search.text link.target ∈ trail.visited := by
  obtain ⟨_, found⟩ := Option.isSome_iff_exists.mp visible
  have explores : search.Explores (room + 1) room 0 := dfs_searched (by omega)
  let begun : Trail Uuid Weight := ⟨[search.text search.start], []⟩
  have marked : ∀ other ∈ [search.start], search.text other ∈ begun.visited := by simp [begun]
  obtain ⟨searched, followed⟩ := explore_searched explores (.start visible) rfl marked fun _ member => member
  have sound : search.Sound (room + 1) begun :=
    ⟨by simp [begun], by simp [begun, recorded], fun other _ => by simp [begun, recorded, text_inj]⟩
  refine ⟨_, ?_, searched.sound sound, followed, fun entry member above => ?_⟩
  · have limit : (maxDepth + 1).toNat = room + 1 := by omega
    simp only [chain, traverse, getById, found, limit]
    rw [dfs_found not_mem_nil found]
    rfl
  · exact searched.expanded entry member not_mem_nil (by omega)

theorem chain_nil (nothing : search.Visible search.start → maxDepth < 0) : search.chain maxDepth = [] := by
  unfold chain traverse
  split
  · rfl
  case h_2 found =>
    obtain ⟨_, seen, -⟩ := Option.map_eq_some_iff.mp found
    have negative := nothing (by rw [Visible, text, ← text, seen]; rfl)
    rw [show (maxDepth + 1).toNat = 0 by omega]
    rfl

variable (search maxDepth)

def ids : List Uuid := (search.chain maxDepth).map fun entry => entry.node.id

def Reached (id : Uuid) : Prop := id ≠ search.start ∧ ∃ hops : Nat, hops ≤ maxDepth ∧ search.Within hops id

/-- A node at the end of a route of `max_depth` links that is nearer to the start by other links has
links only to the nodes of that route. -/
def Direct : Prop :=
  ∀ id passed, search.Route (id :: passed) → passed.length = maxDepth → ∀ hops : Nat, hops < maxDepth →
    search.Within hops id → ∀ link ∈ search.links id, search.Visible link.target → link.target ∈ id :: passed

/-- A traversal lists each node once and only nodes within reach.  It lists all of
them if no node can be come to too late. -/
theorem traverse_reaches :
    (search.ids maxDepth).Nodup ∧ (∀ id ∈ search.ids maxDepth, search.Reached maxDepth id) ∧
      (search.Direct maxDepth → ∀ id, search.Reached maxDepth id → id ∈ search.ids maxDepth) := by
  by_cases nothing : search.Visible search.start → maxDepth < 0
  · simp only [ids, chain_nil nothing, map_nil, nodup_nil, not_mem_nil, false_implies, implies_true, true_and]
    rintro - id ⟨-, hops, near, within⟩
    have negative := nothing within.visible_start
    omega
  obtain ⟨visible, positive⟩ := Classical.not_imp.mp nothing
  obtain ⟨room, limited⟩ := Int.eq_ofNat_of_zero_le (not_lt.mp positive)
  obtain ⟨trail, same, sound, first, expanded⟩ := chain_searched visible limited
  simp only [ids, same]
  obtain ⟨others, once⟩ := nodup_cons.mp sound.once
  refine ⟨once, fun id listed => ?_, fun direct => ?_⟩
  · obtain ⟨entry, member, rfl⟩ := mem_map.mp listed
    obtain ⟨_, _, route, far, -⟩ := sound.reached entry member
    obtain ⟨_, _, ends, within⟩ := route.within
    cases ends
    exact ⟨fun same => others (same ▸ listed), entry.depth, by omega, far ▸ within⟩
  · rintro id ⟨other, hops, near, within⟩
    refine Or.resolve_left ?_ other
    clear other
    induction within with
    | start => exact .inl rfl
    | @step hops source link within followed visible ih =>
        have listed : search.text link.target ∈ trail.visited →
            link.target = search.start ∨ link.target ∈ trail.chain.map fun entry => entry.node.id :=
          fun visited => mem_cons.mp ((sound.visited _ visible).mp visited)
        rcases ih (by omega) with rfl | earlier
        · exact listed (first (by omega) link followed)
        obtain ⟨entry, member, rfl⟩ := mem_map.mp earlier
        by_cases last : entry.depth < room
        · exact listed (expanded entry member last link followed)
        · obtain ⟨shallow, passed, route, far, marked⟩ := sound.reached entry member
          have back := direct _ passed route (by omega) hops (by omega) within link followed visible
          rcases mem_cons.mp back with itself | past
          · exact .inr (itself ▸ earlier)
          · exact listed (marked _ past)

end Search

/-- From `start` by a strong link to `a` and a weak one to `b`, and from `a` by `b`
to `c`. -/
def diamond : Database String Nat where
  nodes := ["start", "a", "b", "c"].map (nodeOf "alice")
  links := [⟨"start", "a", "related", 2⟩, ⟨"start", "b", "related", 1⟩, ⟨"a", "b", "related", 1⟩,
    ⟨"b", "c", "related", 1⟩]
  ids_nodup := by decide
  links_nodup := by decide
  ends_exist := by decide

def aliceSearch : Search String Nat := ⟨alice.caller unscoped none, diamond, "", 0, "start"⟩

/-- `b` is come to by `a`, at the last depth, and so `c` is missed, two links away. -/
theorem traverse_misses_near_node : aliceSearch.ids 2 = ["a", "b"] ∧ aliceSearch.Reached 2 "c" := by
  refine ⟨rfl, by decide, 2, by decide, ?_⟩
  have near : aliceSearch.Within 1 "b" :=
    @Search.Within.step _ _ aliceSearch _ _ _ _ ⟨"start", "b", "related", 1⟩ (.start rfl) (by decide) rfl
  exact @Search.Within.step _ _ _ _ _ _ _ ⟨"b", "c", "related", 1⟩ near (by decide) rfl

end AindyRuntime.Memory
