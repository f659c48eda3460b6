import ChatGateway.Models.Upstream
import ChatGateway.Shared.Rotation
import Mathlib.Data.String.Basic
import Mathlib.Logic.Function.Basic

set_option autoImplicit false

/-!
# The first of the ranked upstreams

Upstreams of one priority with weights of their own take turns at the front, by a counter for each
downstream key, model and protocol. The turn is over the upstreams in the order of their ids, so the
order that their pressure gave them has no part in it.
-/

namespace ChatGateway

open Models

structure UpstreamCandidate where
  id : String
  name : String
  protocol : UpstreamProtocol
  models : List Text
  priority : Nat
  weight : Nat
  failureCount : Nat

def UpstreamCandidate.new (id name : String) (protocol : UpstreamProtocol) : UpstreamCandidate where
  id
  name
  protocol
  models := []
  priority := 0
  weight := 1
  failureCount := 0

def selectWeightedCandidateIndex (candidates : List UpstreamCandidate) (cursor : Nat) :
    Option Nat :=
  match (candidates.map (·.priority)).max? with
  | none => none
  | some highestPriority =>
    let tier := candidates.zipIdx.filter fun member => member.1.priority = highestPriority
    let positive := (tier.filter fun member => 0 < member.1.weight).map fun member =>
      (member.2, member.1.weight)
    if positive.isEmpty then tier.head?.map (·.2)
    else
      (Rotation.walk positive (cursor % Rotation.total positive)).or (positive.head?.map (·.1))

structure RankedUpstream where
  id : String
  name : String
  priority : Nat
  weight : Nat

def RankedUpstream.candidate (protocol : UpstreamProtocol) (upstream : RankedUpstream) :
    UpstreamCandidate :=
  { UpstreamCandidate.new upstream.id upstream.name protocol with
    priority := upstream.priority
    weight := upstream.weight }

def tierOf (upstreams : List RankedUpstream) : List RankedUpstream :=
  upstreams.takeWhile fun upstream => some upstream.priority = upstreams.head?.map (·.priority)

def stablePositions (tier : List RankedUpstream) : List (RankedUpstream × Nat) :=
  tier.zipIdx.insertionSort fun left right => left.1.id ≤ right.1.id

def moveToFront (upstreams : List RankedUpstream) (index : Nat) : List RankedUpstream :=
  match upstreams[index]? with
  | some picked => picked :: upstreams.eraseIdx index
  | none => upstreams

def pickedPosition (protocol : UpstreamProtocol) (tier : List RankedUpstream) (tieBreaker : Nat) :
    Option (RankedUpstream × Nat) :=
  let positions := stablePositions tier
  positions[(selectWeightedCandidateIndex (positions.map fun position =>
    position.1.candidate protocol) tieBreaker).getD 0]?

section Ranking

variable {K B : Type} [DecidableEq K] [DecidableEq B]

/-- `bucketKey` is what the pressure on an upstream ranks it by. -/
def orderCandidates (protocol : UpstreamProtocol) (bucketKey : RankedUpstream → B)
    (upstreams : List RankedUpstream) (tieBreaker : Nat) : List RankedUpstream :=
  let tier := tierOf upstreams
  if 1 < tier.length ∧
      tier.any fun upstream => some upstream.weight ≠ upstreams.head?.map (·.weight) then
    let picked := ((pickedPosition protocol tier tieBreaker).map (·.2)).getD 0
    if 0 < picked then moveToFront upstreams picked else upstreams
  else
    let bucket := upstreams.takeWhile fun upstream =>
      some (bucketKey upstream) = upstreams.head?.map bucketKey
    if 1 < bucket.length then
      bucket.rotate (tieBreaker % bucket.length) ++ upstreams.drop bucket.length
    else upstreams

def nextRoutingTieBreaker (tieBreakers : K → Nat) (key : K) : Nat × (K → Nat) :=
  (tieBreakers key,
    Function.update tieBreakers key (min (tieBreakers key + 1) (2 ^ 64 - 1)))

structure RankedRequest (K B : Type) where
  key : K
  bucketKey : RankedUpstream → B
  upstreams : List RankedUpstream

def rankAll (protocol : UpstreamProtocol) :
    (K → Nat) → List (RankedRequest K B) → List (K × List RankedUpstream)
  | _, [] => []
  | tieBreakers, request :: rest =>
    if 1 < request.upstreams.length then
      let (tieBreaker, next) := nextRoutingTieBreaker tieBreakers request.key
      (request.key, orderCandidates protocol request.bucketKey request.upstreams tieBreaker) ::
        rankAll protocol next rest
    else (request.key, request.upstreams) :: rankAll protocol tieBreakers rest

end Ranking

def weightShares (upstreams : List RankedUpstream) : List (String × Nat) :=
  (upstreams.filter fun upstream => 0 < upstream.weight).map fun upstream =>
    (upstream.id, upstream.weight)

def sortedTier (tier : List RankedUpstream) : List RankedUpstream :=
  (stablePositions tier).map (·.1)

theorem sortedTier_perm (tier : List RankedUpstream) : (sortedTier tier).Perm tier := by
  have perm := (List.perm_insertionSort
    (fun (left right : RankedUpstream × Nat) => left.1.id ≤ right.1.id) tier.zipIdx).map (·.1)
  rwa [List.zipIdx_map_fst] at perm

theorem sortedTier_sorted (tier : List RankedUpstream) :
    (sortedTier tier).Pairwise fun left right => left.id ≤ right.id :=
  List.pairwise_map.2 (List.pairwise_insertionSort _ _)

theorem sortedTier_eq {first second : List RankedUpstream} (perm : first.Perm second)
    (distinct : (second.map (·.id)).Nodup) : sortedTier first = sortedTier second := by
  refine List.Perm.eq_of_pairwise (fun left right inLeft inRight below above => ?_)
    (sortedTier_sorted first) (sortedTier_sorted second)
    ((sortedTier_perm first).trans (perm.trans (sortedTier_perm second).symm))
  have known := perm.mem_iff.1 ((sortedTier_perm first).mem_iff.1 inLeft)
  exact List.inj_on_of_nodup_map distinct known ((sortedTier_perm second).mem_iff.1 inRight)
    (le_antisymm below above)

def positionShares (upstreams : List RankedUpstream) : List ((RankedUpstream × Nat) × Nat) :=
  (upstreams.zipIdx.filter fun member => 0 < member.1.weight).map fun member =>
    (member, member.1.weight)

theorem weightShares_eq (upstreams : List RankedUpstream) : weightShares upstreams =
    (positionShares upstreams).map fun share => (share.1.1.id, share.2) := by
  have plain : upstreams = upstreams.zipIdx.map (·.1) := (List.zipIdx_map_fst 0 upstreams).symm
  conv_lhs => rw [weightShares, plain, List.filter_map, List.map_map]
  rw [positionShares, List.map_map]
  rfl

theorem total_map_shares {A B : Type} (rename : A → B) (shares : List (A × Nat)) :
    Rotation.total (shares.map fun share => (rename share.1, share.2)) = Rotation.total shares := by
  rw [Rotation.total, Rotation.total, List.map_map]
  rfl

theorem max?_of_same {upstreams : List RankedUpstream} {priority : Nat} (filled : upstreams ≠ [])
    (same : ∀ upstream ∈ upstreams, upstream.priority = priority) (protocol : UpstreamProtocol) :
    ((upstreams.map (·.candidate protocol)).map (·.priority)).max? = some priority := by
  have priorities : (upstreams.map (·.candidate protocol)).map (·.priority) =
      List.replicate upstreams.length priority := by
    rw [List.map_map, List.eq_replicate_iff]
    exact ⟨List.length_map .., fun _ member => by
      obtain ⟨upstream, inside, rfl⟩ := List.mem_map.1 member
      exact same upstream inside⟩
  rw [priorities, List.max?_replicate_of_pos (List.length_pos_iff.2 filled)]

theorem positive_eq {upstreams : List RankedUpstream} {priority : Nat}
    (same : ∀ upstream ∈ upstreams, upstream.priority = priority) (protocol : UpstreamProtocol) :
    ((((upstreams.map (·.candidate protocol)).zipIdx.filter fun member =>
      member.1.priority = priority).filter fun member => 0 < member.1.weight).map fun member =>
        (member.2, member.1.weight)) =
      (positionShares upstreams).map fun share => (share.1.2, share.2) := by
  have all : ((upstreams.map (·.candidate protocol)).zipIdx.filter fun member =>
      member.1.priority = priority) = (upstreams.map (·.candidate protocol)).zipIdx := by
    refine List.filter_eq_self.2 fun member inside => decide_eq_true ?_
    obtain ⟨upstream, known, same'⟩ := List.mem_map.1 (List.fst_mem_of_mem_zipIdx inside)
    rw [← same']
    exact same upstream known
  rw [all, List.zipIdx_map, List.filter_map, List.map_map, positionShares, List.map_map]
  rfl

theorem selected_of_same {upstreams : List RankedUpstream} {priority : Nat}
    (same : ∀ upstream ∈ upstreams, upstream.priority = priority)
    (weighted : 0 < Rotation.total (weightShares upstreams)) (protocol : UpstreamProtocol)
    (cursor : Nat) : ∃ index upstream,
      selectWeightedCandidateIndex (upstreams.map (·.candidate protocol)) cursor = some index ∧
      upstreams[index]? = some upstream ∧
      Rotation.walk (weightShares upstreams) (cursor % Rotation.total (weightShares upstreams)) =
        some upstream.id := by
  have filled : upstreams ≠ [] := by
    rintro rfl
    exact absurd weighted (by decide)
  rw [weightShares_eq, total_map_shares (fun member : RankedUpstream × Nat => member.1.id)]
    at weighted
  rw [weightShares_eq, total_map_shares (fun member : RankedUpstream × Nat => member.1.id),
    Rotation.walk_map (fun member : RankedUpstream × Nat => member.1.id)]
  obtain ⟨⟨upstream, index⟩, found⟩ :=
    Rotation.walk_isSome (Nat.mod_lt cursor weighted)
  refine ⟨index, upstream, ?_, ?_, by rw [found]; rfl⟩
  · have some : (positionShares upstreams).isEmpty = false := by
      cases shares : positionShares upstreams with
      | nil => rw [shares] at weighted; exact absurd weighted (by decide)
      | cons => rfl
    rw [selectWeightedCandidateIndex, max?_of_same filled same]
    simp only [positive_eq same, List.isEmpty_map, some,
      total_map_shares (fun member : RankedUpstream × Nat => member.2),
      Rotation.walk_map (fun member : RankedUpstream × Nat => member.2), found]
    rfl
  · obtain ⟨share, inside, picked⟩ := List.mem_map.1 (Rotation.walk_mem found)
    obtain ⟨member, known, rfl⟩ := List.mem_map.1 inside
    subst picked
    exact List.mem_zipIdx_iff_getElem?.1 (List.mem_filter.1 known).1

theorem tierOf_begins (upstreams : List RankedUpstream) : tierOf upstreams <+: upstreams :=
  List.takeWhile_prefix _

theorem getElem?_of_tierOf {upstreams : List RankedUpstream} {index : Nat}
    {upstream : RankedUpstream} (found : (tierOf upstreams)[index]? = some upstream) :
    upstreams[index]? = some upstream := by
  obtain ⟨inside, rfl⟩ := List.getElem?_eq_some_iff.1 found
  exact List.prefix_iff_getElem?.1 (tierOf_begins upstreams) index inside

theorem priority_of_tierOf {upstreams : List RankedUpstream} {upstream : RankedUpstream}
    (member : upstream ∈ tierOf upstreams) :
    some upstream.priority = upstreams.head?.map (·.priority) :=
  of_decide_eq_true (List.mem_takeWhile_imp
    (p := fun upstream : RankedUpstream => some upstream.priority =
      upstreams.head?.map (·.priority)) member)

theorem getElem?_of_stablePositions {tier : List RankedUpstream}
    {position : RankedUpstream × Nat} (member : position ∈ stablePositions tier) :
    tier[position.2]? = some position.1 :=
  List.mem_zipIdx_iff_getElem?.1 ((List.mem_insertionSort _).1 member)

theorem head?_moveToFront {upstreams : List RankedUpstream} {index : Nat}
    {upstream : RankedUpstream} (found : upstreams[index]? = some upstream) :
    (moveToFront upstreams index).head? = some upstream := by
  rw [moveToFront, found]
  rfl

def WeightsDiffer (tier : List RankedUpstream) : Prop :=
  ∃ first ∈ tier, ∃ second ∈ tier, first.weight ≠ second.weight

theorem WeightsDiffer.of_perm {first second : List RankedUpstream} (differ : WeightsDiffer second)
    (perm : first.Perm second) : WeightsDiffer first := by
  obtain ⟨left, inLeft, right, inRight, apart⟩ := differ
  exact ⟨left, perm.mem_iff.2 inLeft, right, perm.mem_iff.2 inRight, apart⟩

theorem WeightsDiffer.length {tier : List RankedUpstream} (differ : WeightsDiffer tier) :
    1 < tier.length := by
  obtain ⟨left, inLeft, right, inRight, apart⟩ := differ
  match tier, inLeft, inRight with
  | [_], inLeft, inRight =>
    rw [List.mem_singleton] at inLeft inRight
    exact absurd (inLeft.trans inRight.symm ▸ rfl) apart
  | _ :: _ :: _, _, _ => exact Nat.le_add_left 2 _

theorem WeightsDiffer.any {upstreams : List RankedUpstream}
    (differ : WeightsDiffer (tierOf upstreams)) :
    (tierOf upstreams).any fun upstream =>
      some upstream.weight ≠ upstreams.head?.map (·.weight) := by
  by_contra none
  obtain ⟨left, inLeft, right, inRight, apart⟩ := differ
  have equal (upstream : RankedUpstream) (member : upstream ∈ tierOf upstreams) :
      some upstream.weight = upstreams.head?.map (·.weight) := by
    by_contra other
    exact none (List.any_eq_true.2 ⟨upstream, member, decide_eq_true other⟩)
  exact apart (Option.some.inj ((equal left inLeft).trans (equal right inRight).symm))

theorem WeightsDiffer.total {tier : List RankedUpstream} (differ : WeightsDiffer tier) :
    0 < Rotation.total (weightShares tier) := by
  obtain ⟨left, inLeft, right, inRight, apart⟩ := differ
  obtain ⟨upstream, member, positive⟩ : ∃ upstream ∈ tier, 0 < upstream.weight := by
    rcases Nat.eq_zero_or_pos left.weight with none | some
    · exact ⟨right, inRight, by omega⟩
    · exact ⟨left, inLeft, some⟩
  have share : upstream.weight ∈ (weightShares tier).map (·.2) :=
    List.mem_map.2 ⟨_, List.mem_map.2
      ⟨upstream, List.mem_filter.2 ⟨member, decide_eq_true positive⟩, rfl⟩, rfl⟩
  exact positive.trans_le (List.single_le_sum (fun _ _ => Nat.zero_le _) _ share)

section Ranking

variable {K B : Type} [DecidableEq K] [DecidableEq B]

omit [DecidableEq K] in
theorem head?_orderCandidates {tier upstreams : List RankedUpstream}
    (distinct : (tier.map (·.id)).Nodup) (differ : WeightsDiffer tier)
    (perm : (tierOf upstreams).Perm tier) (protocol : UpstreamProtocol)
    (bucketKey : RankedUpstream → B) (tieBreaker : Nat) :
    (orderCandidates protocol bucketKey upstreams tieBreaker).head?.map (·.id) =
      Rotation.walk (weightShares (sortedTier tier))
        (tieBreaker % Rotation.total (weightShares (sortedTier tier))) := by
  have own := differ.of_perm perm
  obtain ⟨priority, first⟩ : ∃ priority, upstreams.head?.map (·.priority) = some priority := by
    obtain ⟨upstream, member, -⟩ := own
    exact ⟨_, (priority_of_tierOf member).symm⟩
  have same (upstream : RankedUpstream) (member : upstream ∈ sortedTier (tierOf upstreams)) :
      upstream.priority = priority := by
    have known := priority_of_tierOf ((sortedTier_perm _).mem_iff.1 member)
    exact Option.some.inj (known.trans first)
  obtain ⟨index, upstream, chosen, found, turn⟩ := selected_of_same same
    (own.of_perm (sortedTier_perm _)).total protocol tieBreaker
  -- Pressure reorders the tier, but not the positions the turn is taken over.
  rw [sortedTier_eq perm distinct] at turn
  rw [sortedTier, List.map_map] at chosen
  obtain ⟨position, place, rfl⟩ : ∃ position, (stablePositions (tierOf upstreams))[index]? =
      some position ∧ position.1 = upstream := by
    rw [sortedTier, List.getElem?_map] at found
    exact Option.map_eq_some_iff.1 found
  have inTier := getElem?_of_stablePositions (List.mem_of_getElem? place)
  have inAll := getElem?_of_tierOf inTier
  have picked : pickedPosition protocol (tierOf upstreams) tieBreaker = some position := by
    rw [pickedPosition]
    exact (congrArg (fun chosen => (stablePositions (tierOf upstreams))[chosen.getD 0]?)
      chosen).trans place
  rw [turn, orderCandidates, if_pos ⟨own.length, own.any⟩, picked]
  show Option.map (·.id)
    (if 0 < position.2 then moveToFront upstreams position.2 else upstreams).head? = _
  split
  · rw [head?_moveToFront inAll]
    rfl
  · next front =>
    rw [Nat.eq_zero_of_not_pos front, ← List.head?_eq_getElem?] at inAll
    rw [inAll]
    rfl

theorem countP_rankAll {protocol : UpstreamProtocol} {key : K}
    (shown : List RankedUpstream → Prop) [DecidablePred shown] {holds : Nat → Prop}
    [DecidablePred holds] {requests : List (RankedRequest K B)}
    (turn : ∀ request ∈ requests, request.key = key → 1 < request.upstreams.length ∧
      ∀ tieBreaker,
        shown (orderCandidates protocol request.bucketKey request.upstreams tieBreaker) ↔
          holds tieBreaker)
    (tieBreakers : K → Nat)
    (room : tieBreakers key + requests.countP (fun request => request.key = key) ≤ 2 ^ 64) :
    (rankAll protocol tieBreakers requests).countP (fun ranked =>
        ranked.1 = key ∧ shown ranked.2) =
      Nat.count (fun cursor => holds (tieBreakers key + cursor))
        (requests.countP fun request => request.key = key) := by
  induction requests generalizing tieBreakers with
  | nil => rfl
  | cons request rest ih =>
    have later := fun other (member : other ∈ rest) => turn other (.tail _ member)
    by_cases own : request.key = key
    · obtain ⟨several, shows⟩ := turn request (.head _) own
      have one : (request :: rest).countP (fun request => request.key = key) =
          rest.countP (fun request => request.key = key) + 1 :=
        List.countP_cons_of_pos (decide_eq_true own)
      rw [one] at room ⊢
      have next : (nextRoutingTieBreaker tieBreakers request.key).2 key =
          min (tieBreakers key + 1) (2 ^ 64 - 1) := by
        rw [own]
        exact Function.update_self ..
      -- The counter does not reach the value it would saturate at before the last request.
      have tail := ih later (nextRoutingTieBreaker tieBreakers request.key).2
        (by omega)
      rw [rankAll, if_pos several, List.countP_cons, tail, Nat.count_succ', next]
      have shift : Nat.count (fun cursor => holds (min (tieBreakers key + 1) (2 ^ 64 - 1) + cursor))
            (rest.countP fun request => request.key = key) =
          Nat.count (fun cursor => holds (tieBreakers key + (cursor + 1)))
            (rest.countP fun request => request.key = key) := by
        refine Rotation.count_congr fun cursor inside => ?_
        rw [show min (tieBreakers key + 1) (2 ^ 64 - 1) + cursor = tieBreakers key + (cursor + 1) by
          omega]
      rw [shift]
      simp only [own, true_and, nextRoutingTieBreaker, shows, decide_eq_true_eq, Nat.add_zero]
    · have none : (request :: rest).countP (fun request => request.key = key) =
          rest.countP (fun request => request.key = key) :=
        List.countP_cons_of_neg (by simpa using own)
      rw [none] at room ⊢
      rw [rankAll]
      split
      · have next : (nextRoutingTieBreaker tieBreakers request.key).2 key = tieBreakers key :=
          Function.update_of_ne (Ne.symm own) _ _
        have tail := ih later (nextRoutingTieBreaker tieBreakers request.key).2
          (by rw [next]; exact room)
        rw [List.countP_cons_of_neg (by simp [own]), tail, next]
      · rw [List.countP_cons_of_neg (by simp [own]), ih later tieBreakers room]

end Ranking

theorem total_weightShares (upstreams : List RankedUpstream) :
    Rotation.total (weightShares upstreams) = (upstreams.map (·.weight)).sum := by
  induction upstreams with
  | nil => rfl
  | cons first rest ih =>
    rw [List.map_cons, List.sum_cons, ← ih, weightShares, List.filter_cons]
    split
    · rfl
    · next idle =>
      rw [Nat.eq_zero_of_not_pos (fun positive => idle (decide_eq_true positive)), Nat.zero_add]
      rfl

theorem total_sortedTier (tier : List RankedUpstream) :
    Rotation.total (weightShares (sortedTier tier)) = (tier.map (·.weight)).sum :=
  (total_weightShares _).trans ((sortedTier_perm tier).map (·.weight)).sum_nat

/-- A key's requests come to the members of a weighted tier in proportion to their weights: over
as many requests as the weights add up to, wherever the counter stands and however the pressure
orders the tier, an upstream is first exactly as often as its weight says. -/
theorem weighted_share_exact {K B : Type} [DecidableEq K] [DecidableEq B]
    {tier : List RankedUpstream} (distinct : (tier.map (·.id)).Nodup)
    (differ : WeightsDiffer tier) (protocol : UpstreamProtocol) {key : K}
    {requests : List (RankedRequest K B)}
    (ofTier : ∀ request ∈ requests, request.key = key → (tierOf request.upstreams).Perm tier)
    (period : requests.countP (fun request => request.key = key) = (tier.map (·.weight)).sum)
    {tieBreakers : K → Nat} (room : tieBreakers key + (tier.map (·.weight)).sum ≤ 2 ^ 64)
    {upstream : RankedUpstream} (member : upstream ∈ tier) :
    (rankAll protocol tieBreakers requests).countP (fun ranked =>
        ranked.1 = key ∧ ranked.2.head?.map (·.id) = some upstream.id) = upstream.weight := by
  have turn (request : RankedRequest K B) (known : request ∈ requests) (own : request.key = key) :
      1 < request.upstreams.length ∧ ∀ tieBreaker,
        (orderCandidates protocol request.bucketKey request.upstreams tieBreaker).head?.map (·.id) =
            some upstream.id ↔
          Rotation.walk (weightShares (sortedTier tier))
            (tieBreaker % Rotation.total (weightShares (sortedTier tier))) = some upstream.id := by
    have perm := ofTier request known own
    refine ⟨(differ.of_perm perm).length.trans_le (tierOf_begins _).length_le, fun tieBreaker => ?_⟩
    rw [head?_orderCandidates distinct differ perm]
  rw [countP_rankAll (fun ranked => ranked.head?.map (·.id) = some upstream.id) turn tieBreakers
    (by rw [period]; exact room), period, ← total_sortedTier]
  have names : ((weightShares (sortedTier tier)).map (·.1)).Nodup := by
    rw [weightShares, List.map_map]
    exact (((sortedTier_perm tier).map RankedUpstream.id).nodup_iff.2 distinct).sublist
      (List.filter_sublist.map RankedUpstream.id)
  rcases Nat.eq_zero_or_pos upstream.weight with idle | positive
  · rw [idle]
    refine Nat.count_of_forall_not fun cursor _ found => ?_
    obtain ⟨share, inside, same⟩ := List.mem_map.1 (Rotation.walk_mem found)
    obtain ⟨other, known, rfl⟩ := List.mem_map.1 inside
    obtain ⟨inTier, weighs⟩ := List.mem_filter.1 known
    have one := List.inj_on_of_nodup_map distinct ((sortedTier_perm tier).mem_iff.1 inTier) member
      same
    rw [one, idle] at weighs
    exact absurd weighs (by decide)
  · exact Rotation.count_period_walk names (List.mem_map.2 ⟨upstream, List.mem_filter.2
      ⟨(sortedTier_perm tier).mem_iff.2 member, decide_eq_true positive⟩, rfl⟩) _

def heavyUpstream : RankedUpstream := ⟨"a", "heavy", 1, 2⟩

def lightUpstream : RankedUpstream := ⟨"b", "light", 1, 1⟩

def threeRequests : List (RankedRequest Nat Nat) :=
  [⟨0, fun _ => 0, [heavyUpstream, lightUpstream]⟩, ⟨0, fun _ => 0, [lightUpstream, heavyUpstream]⟩,
    ⟨0, fun _ => 0, [lightUpstream, heavyUpstream]⟩]

theorem heavyUpstream_share :
    (rankAll .chatCompletions (fun _ => 7) threeRequests).countP (fun ranked =>
      ranked.1 = 0 ∧ ranked.2.head?.map (·.id) = some "a") = 2 :=
  @weighted_share_exact _ _ _ _ [heavyUpstream, lightUpstream] (by decide)
    ⟨_, .head _, _, .tail _ (.head _), by decide⟩ .chatCompletions _ _
    (fun request member _ => by
      simp only [threeRequests, List.mem_cons, List.not_mem_nil, or_false] at member
      rcases member with rfl | rfl | rfl
      · exact List.Perm.refl _
      · exact List.Perm.swap _ _ _
      · exact List.Perm.swap _ _ _)
    (by decide) _ (by decide) _ (.head _)

end ChatGateway
