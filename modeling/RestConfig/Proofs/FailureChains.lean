import Mathlib
import RestConfig.Console.Exit

/-!
# The chain of a failure and the status it ends with

From a failure, following its cause, or else its unsuppressed context, gives a sequence of
failures (`trail`) that may run into a cycle. The chain the walk collects is the longest
stretch of that sequence without a repetition: it follows the links, never holds a failure
twice, and every repetition-free stretch of the sequence is a prefix of it. The walk's
fuel, one step more than the graph has failures, is never what stops it: each step visits
a failure not seen before, so the chain is never longer than the graph.

The status is decided along the chain: a configuration error exactly when some member
reports one and no malformed declaration comes before the first such member, and an
internal error otherwise.

Main statement: `Console.chain_longest_and_route`.
-/

namespace RestConfig.Console

/-- A graph whose causes and contexts all point at failures of the graph. -/
def Closed (graph : List Raised) : Prop :=
  ∀ r ∈ graph, (∀ j, r.cause = some j → j < graph.length) ∧
    (∀ j, r.context = some j → j < graph.length)

/-- The `k`-th failure met from position `i` by following `next`, if the links reach that
far. -/
def trail (graph : List Raised) (i : Nat) : Nat → Option Nat
  | 0 => some i
  | k + 1 => ((graph[i]?).bind Raised.next).bind fun j => trail graph j k

/-- The list holds the first failures met from `i`, in order. -/
def Trails (graph : List Raised) (i : Nat) (l : List Nat) : Prop :=
  (List.range l.length).map (trail graph i) = l.map some

/-- The first member of a chain that decides a configuration error is one that reports
it: before it stands no configuration error and no malformed declaration. -/
def ConfigFirst (graph : List Raised) (c : List Nat) : Prop :=
  ∃ pre i post r, c = pre ++ i :: post ∧ graph[i]? = some r ∧ r.kind ∈ configKinds ∧
    ∀ j ∈ pre, ∀ q, graph[j]? = some q → q.kind ∉ configKinds ∧ q.kind ≠ definitionKind

theorem Raised.next_within {r : Raised} {n j : Nat} (hc : ∀ j, r.cause = some j → j < n)
    (hx : ∀ j, r.context = some j → j < n) (h : r.next = some j) : j < n := by
  unfold Raised.next at h
  split at h
  · cases h
    exact hc _ ‹_›
  · split at h
    · cases h
    · exact hx j h

theorem Closed.next_lt {graph : List Raised} (closed : Closed graph) {i j : Nat} {r : Raised}
    (hr : graph[i]? = some r) (h : r.next = some j) : j < graph.length :=
  have inside := closed r (List.mem_of_getElem? hr)
  Raised.next_within inside.1 inside.2 h

/-! ## Trails -/

section Trails

variable {graph : List Raised}

theorem trail_succ {i j : Nat} {r : Raised} (hr : graph[i]? = some r) (hn : r.next = some j)
    (k : Nat) : trail graph i (k + 1) = trail graph j k := by
  simp [trail, hr, hn]

theorem trail_one_of_next_none {i : Nat} {r : Raised} (hr : graph[i]? = some r)
    (hn : r.next = none) : trail graph i 1 = none := by
  simp [trail, hr, hn]

theorem trails_nil (i : Nat) : Trails graph i [] := rfl

theorem Trails.head {i a : Nat} {l : List Nat} (h : Trails graph i (a :: l)) : a = i := by
  have first := congrArg List.head? h
  simp [List.range_succ_eq_map, trail] at first
  exact first.symm

theorem trails_cons_iff {i j : Nat} {r : Raised} (hr : graph[i]? = some r)
    (hn : r.next = some j) {l : List Nat} : Trails graph i (i :: l) ↔ Trails graph j l := by
  unfold Trails
  rw [List.length_cons, List.range_succ_eq_map, List.map_cons, List.map_map, List.map_cons]
  have shifted : trail graph i ∘ Nat.succ = trail graph j := funext (trail_succ hr hn)
  simp [shifted, trail]

theorem Trails.tail_nil {i a b : Nat} {r : Raised} {l : List Nat} (hr : graph[i]? = some r)
    (hn : r.next = none) (h : Trails graph i (a :: b :: l)) : False := by
  have second := congrArg (·[1]?) h
  simp [List.range_succ_eq_map, trail_one_of_next_none hr hn] at second

end Trails

/-! ## The walk -/

/-- What the walk from `i`, having seen `seen`, collects: the failures it meets until it
meets a seen one, or one without a successor, each once. -/
inductive Walked (graph : List Raised) : List Nat → Nat → List Nat → Prop
  /-- A failure already seen ends the walk before it. -/
  | stop {seen i} : i ∈ seen → Walked graph seen i []
  /-- A failure without a successor is the last one met. -/
  | last {seen i r} : i ∉ seen → graph[i]? = some r → r.next = none → Walked graph seen i [i]
  /-- Otherwise the walk goes on to the successor, with the failure seen. -/
  | cons {seen i r j l} : i ∉ seen → graph[i]? = some r → r.next = some j →
      Walked graph (i :: seen) j l → Walked graph seen i (i :: l)

namespace Walked

variable {graph : List Raised}

theorem trails {seen : List Nat} {i : Nat} {l : List Nat} (w : Walked graph seen i l) :
    Trails graph i l := by
  induction w with
  | stop _ => exact trails_nil _
  | last _ _ _ => rfl
  | cons _ hr hn _ ih => exact (trails_cons_iff hr hn).mpr ih

theorem fresh {seen : List Nat} {i : Nat} {l : List Nat} (w : Walked graph seen i l) :
    ∀ j ∈ l, j ∉ seen := by
  induction w with
  | stop _ => simp
  | last unseen _ _ => simpa using unseen
  | cons unseen _ _ _ ih =>
    intro j mem
    rcases List.mem_cons.mp mem with rfl | later
    · exact unseen
    · exact fun old => ih j later (List.mem_cons_of_mem _ old)

theorem nodup {seen : List Nat} {i : Nat} {l : List Nat} (w : Walked graph seen i l) :
    l.Nodup := by
  induction w with
  | stop _ => exact List.nodup_nil
  | last _ _ _ => exact List.nodup_singleton _
  | cons _ _ _ rest ih =>
    exact List.nodup_cons.mpr ⟨fun mem => rest.fresh _ mem List.mem_cons_self, ih⟩

theorem mem_getElem? {seen : List Nat} {i : Nat} {l : List Nat} (w : Walked graph seen i l) :
    ∀ j ∈ l, ∃ r, graph[j]? = some r := by
  induction w with
  | stop _ => simp
  | last _ hr _ => simpa using ⟨_, hr⟩
  | cons _ hr _ _ ih =>
    intro j mem
    rcases List.mem_cons.mp mem with rfl | later
    · exact ⟨_, hr⟩
    · exact ih j later

theorem prefix_of_trails {seen : List Nat} {i : Nat} {c : List Nat} (w : Walked graph seen i c) :
    ∀ l, Trails graph i l → l.Nodup → (∀ j ∈ l, j ∉ seen) → l <+: c := by
  induction w with
  | stop visited =>
    intro l hl _ avoids
    cases l with
    | nil => exact List.nil_prefix
    | cons a l => exact absurd (hl.head ▸ visited) (avoids a List.mem_cons_self)
  | last _ hr hn =>
    intro l hl _ _
    match l, hl with
    | [], _ => exact List.nil_prefix
    | [a], hl => rw [hl.head]
    | _ :: _ :: _, hl => exact (hl.tail_nil hr hn).elim
  | @cons seen i r j c _ hr hn _ ih =>
    intro l hl nd avoids
    cases l with
    | nil => exact List.nil_prefix
    | cons a l =>
      obtain rfl := hl.head
      have rest : l <+: c := by
        refine ih l ((trails_cons_iff hr hn).mp hl) (List.nodup_cons.mp nd).2 ?_
        intro k mem old
        rcases List.mem_cons.mp old with rfl | older
        · exact (List.nodup_cons.mp nd).1 mem
        · exact avoids k (List.mem_cons_of_mem _ mem) older
      exact List.prefix_cons_inj _ |>.mpr rest

end Walked

theorem length_le_of_positions {n : Nat} {l : List Nat} (nd : l.Nodup)
    (inside : ∀ j ∈ l, j < n) : l.length ≤ n := by
  have sub : l ⊆ List.range n := fun j mem => List.mem_range.mpr (inside j mem)
  simpa using (nd.subperm sub).length_le

/-- The walk, given one step more than the failures not yet seen, collects a walked list:
each step visits an unseen failure, so the fuel never runs out first. -/
theorem walked_walk {graph : List Raised} (closed : Closed graph) :
    ∀ (fuel : Nat) (seen : List Nat) (i : Nat), seen.Nodup → (∀ j ∈ seen, j < graph.length) →
      i < graph.length → graph.length < seen.length + fuel →
      Walked graph seen i (walk graph fuel seen i) := by
  intro fuel
  induction fuel with
  | zero =>
    intro seen i nd inside _ enough
    have := length_le_of_positions nd inside
    omega
  | succ fuel ih =>
    intro seen i nd inside hi enough
    by_cases visited : i ∈ seen
    · simp only [walk, List.contains_iff_mem, visited, if_true]
      exact .stop visited
    · obtain ⟨r, hr⟩ : ∃ r, graph[i]? = some r := ⟨graph[i], List.getElem?_eq_getElem hi⟩
      cases hn : r.next with
      | none =>
        simp only [walk, List.contains_iff_mem, visited, hr, hn, if_false]
        exact .last visited hr hn
      | some j =>
        simp only [walk, List.contains_iff_mem, visited, hr, hn, if_false]
        refine .cons visited hr hn (ih (i :: seen) j (List.nodup_cons.mpr ⟨visited, nd⟩) ?_
          (closed.next_lt hr hn) (by simp; omega))
        intro k mem
        rcases List.mem_cons.mp mem with rfl | old
        · exact hi
        · exact inside k old

theorem walked_chain {graph : List Raised} (closed : Closed graph) {start : Nat}
    (hs : start < graph.length) : Walked graph [] start (chain graph start) :=
  walked_walk closed _ [] start List.nodup_nil (by simp) hs (by simp)

/-! ## The status -/

theorem statusOfKinds_ne_success : ∀ ks : List String, statusOfKinds ks ≠ .success
  | [] => by simp [statusOfKinds]
  | k :: ks => by
    unfold statusOfKinds
    split
    · simp
    · split
      · simp
      · exact statusOfKinds_ne_success ks

theorem definitionKind_not_config : definitionKind ∉ configKinds := by decide

theorem configFirst_nil (graph : List Raised) : ¬ ConfigFirst graph [] := by
  rintro ⟨pre, i, post, r, split, -⟩
  simp at split

theorem configFirst_cons_iff {graph : List Raised} {i : Nat} {c : List Nat} {r : Raised}
    (hr : graph[i]? = some r) :
    ConfigFirst graph (i :: c) ↔
      r.kind ∈ configKinds ∨ (r.kind ∉ configKinds ∧ r.kind ≠ definitionKind ∧ ConfigFirst graph c) := by
  constructor
  · rintro ⟨pre, k, post, q, split, hq, reports, before⟩
    cases pre with
    | nil =>
      simp only [List.nil_append, List.cons.injEq] at split
      obtain ⟨rfl, -⟩ := split
      rw [hr] at hq
      cases hq
      exact .inl reports
    | cons a pre =>
      simp only [List.cons_append, List.cons.injEq] at split
      obtain ⟨rfl, rfl⟩ := split
      obtain ⟨quiet, wellFormed⟩ := before _ List.mem_cons_self r hr
      exact .inr ⟨quiet, wellFormed, pre, k, post, q, rfl, hq, reports,
        fun j mem => before j (List.mem_cons_of_mem _ mem)⟩
  · rintro (reports | ⟨quiet, wellFormed, pre, k, post, q, rfl, hq, reports, before⟩)
    · exact ⟨[], i, c, r, rfl, hr, reports, by simp⟩
    · refine ⟨i :: pre, k, post, q, rfl, hq, reports, ?_⟩
      intro j mem q' hq'
      rcases List.mem_cons.mp mem with rfl | old
      · rw [hr] at hq'
        cases hq'
        exact ⟨quiet, wellFormed⟩
      · exact before j old q' hq'

/-- Along a list of failures of the graph, the kinds decide a configuration error exactly
when its first decisive member reports one. -/
theorem statusOfKinds_eq_configError_iff {graph : List Raised} :
    ∀ c : List Nat, (∀ j ∈ c, ∃ r, graph[j]? = some r) →
      (statusOfKinds (c.filterMap fun i => (graph[i]?).map (·.kind)) = .configError ↔
        ConfigFirst graph c)
  | [], _ => by simp [statusOfKinds, configFirst_nil]
  | i :: c, found => by
    obtain ⟨r, hr⟩ := found i List.mem_cons_self
    have rest := statusOfKinds_eq_configError_iff c fun j mem => found j (List.mem_cons_of_mem _ mem)
    rw [configFirst_cons_iff hr, List.filterMap_cons, hr, Option.map_some]
    unfold statusOfKinds
    by_cases malformed : r.kind = definitionKind
    · simp [malformed, definitionKind_not_config]
    · by_cases reports : r.kind ∈ configKinds
      · simp [malformed, reports]
      · simp [malformed, reports, rest]

/-- The chain of a failure in a closed graph is the longest repetition-free stretch of the
sequence of failures its links lead to, never longer than the graph; and the status is a
configuration error exactly when the first member of the chain that reports a configuration
error has no malformed declaration before it, an internal error otherwise. -/
theorem chain_longest_and_route {graph : List Raised} (closed : Closed graph) {start : Nat}
    (hs : start < graph.length) :
    Trails graph start (chain graph start) ∧ (chain graph start).Nodup ∧
    (∀ l, Trails graph start l → l.Nodup → l <+: chain graph start) ∧
    (chain graph start).length ≤ graph.length ∧
    (route graph start = .configError ↔ ConfigFirst graph (chain graph start)) ∧
    (route graph start = .internalError ↔ ¬ ConfigFirst graph (chain graph start)) := by
  have w := walked_chain closed hs
  have decides := statusOfKinds_eq_configError_iff (chain graph start) w.mem_getElem?
  have inside : ∀ j ∈ chain graph start, j < graph.length := fun j mem => by
    obtain ⟨r, hr⟩ := w.mem_getElem? j mem
    exact (List.getElem?_eq_some_iff.mp hr).1
  refine ⟨w.trails, w.nodup, fun l hl nd => w.prefix_of_trails l hl nd (by simp),
    length_le_of_positions w.nodup inside, decides, ?_⟩
  unfold route
  rw [← decides]
  cases h : statusOfKinds ((chain graph start).filterMap fun i => (graph[i]?).map (·.kind)) with
  | success => exact absurd h (statusOfKinds_ne_success _)
  | configError => simp
  | internalError => simp

/-- A load failure raised while handling an unknown one, which is the cause of the load
failure in turn: the walk stops at the cycle and the status is a configuration error. -/
theorem cyclic_load_failure_routes_config :
    Closed [⟨"RuntimeError", none, some 1, false⟩, ⟨"ConfigLoadError", some 0, none, true⟩] ∧
    0 < 2 ∧
    chain [⟨"RuntimeError", none, some 1, false⟩, ⟨"ConfigLoadError", some 0, none, true⟩] 0 = [0, 1] ∧
    route [⟨"RuntimeError", none, some 1, false⟩, ⟨"ConfigLoadError", some 0, none, true⟩] 0 =
      .configError := by
  have closed : Closed [⟨"RuntimeError", none, some 1, false⟩,
      ⟨"ConfigLoadError", some 0, none, true⟩] := by
    intro r mem
    simp only [List.mem_cons, List.not_mem_nil, or_false] at mem
    rcases mem with rfl | rfl <;> simp
  refine ⟨closed, by decide, by decide, ?_⟩
  refine ((chain_longest_and_route closed (by decide)).2.2.2.2.1).mpr ?_
  exact ⟨[0], 1, [], _, by decide, rfl, by decide, by simp [configKinds, definitionKind]⟩

end RestConfig.Console
