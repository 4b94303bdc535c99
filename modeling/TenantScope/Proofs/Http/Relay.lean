/- Runs of a relay: what its polls take and yield, however polls and further items alternate. -/
import TenantScope.Http.Relay
import TenantScope.Proofs.Text.Split

namespace TenantScope

/-! Items -/

namespace StreamItem

/-- Whether an item says that nothing is there yet. -/
def isPending : StreamItem → Bool
  | pending => true
  | _ => false

/-- Whether an item is an error. -/
def isFailure : StreamItem → Bool
  | failure _ => true
  | _ => false

/-- The items that are more than a delay. -/
def settled (items : List StreamItem) : List StreamItem := items.filter (!·.isPending)

/-- The items up to the first one that nothing follows. -/
def upToLast : List StreamItem → List StreamItem
  | [] => []
  | item :: rest => if item.isLast then [item] else item :: upToLast rest

/-- The number of octets in some items. -/
def octets (items : List StreamItem) : Nat := (items.flatMap bytes).length

theorem upToLast_eq_upTo (items : List StreamItem) : upToLast items = upTo isLast items := by
  induction items with
  | nil => rfl
  | cons item rest ih =>
      rw [upToLast, upTo, ih]
      cases item.isLast <;> rfl

theorem upToLast_append {items more : List StreamItem} :
    upToLast (items ++ more) =
      if items.any isLast then upToLast items else items ++ upToLast more := by
  rw [upToLast_eq_upTo, upToLast_eq_upTo, upToLast_eq_upTo, upTo_append]

theorem upToLast_of_not_any {items : List StreamItem} (h : items.any isLast = false) :
    upToLast items = items := by
  rw [upToLast_eq_upTo, upTo_eq_self h]

theorem any_isLast_settled (items : List StreamItem) :
    (settled items).any isLast = items.any isLast := by
  rw [settled, List.any_filter]
  congr 1
  funext item
  cases item <;> rfl

theorem any_isLast_append (items : List StreamItem) (item : StreamItem) :
    (items ++ [item]).any isLast = (items.any isLast || item.isLast) := by
  rw [List.any_append, List.any_cons, List.any_nil, Bool.or_false]

theorem settled_append (items more : List StreamItem) :
    settled (items ++ more) = settled items ++ settled more := List.filter_append ..

theorem octets_append (items more : List StreamItem) :
    octets (items ++ more) = octets items + octets more := by
  rw [octets, List.flatMap_append, List.length_append]
  rfl

theorem octets_singleton (item : StreamItem) : octets [item] = item.bytes.length := by
  rw [octets, List.flatMap_singleton]

/-- Where nothing but ends follows a last item, there is one error at most. -/
theorem countP_isFailure_le_one {items : List StreamItem}
    (h : items.Pairwise fun earlier later => earlier.isLast = true → later = .ended) :
    items.countP isFailure ≤ 1 := by
  induction items with
  | nil => exact Nat.zero_le _
  | cons item rest ih =>
      obtain ⟨hfirst, hrest⟩ := List.pairwise_cons.mp h
      rw [List.countP_cons]
      cases item with
      | failure message =>
          have hnone : rest.countP isFailure = 0 := by
            rw [List.countP_eq_zero]
            intro later hmem
            rw [hfirst later hmem rfl]
            exact Bool.false_ne_true
          rw [hnone]
          exact Nat.le_refl 1
      | chunk bytes => exact ih hrest
      | pending => exact ih hrest
      | ended => exact ih hrest

end StreamItem

open StreamItem

namespace Relay

/-! Polls -/

theorem poll_of_finished {r : Relay} (h : r.finished = true) : r.poll = (.ended, r) := if_pos h

theorem poll_of_nil {r : Relay} (h : r.finished = false) (hqueue : r.queue = []) :
    r.poll = (.ended, { r with finished := true }) := by
  obtain ⟨queue, counter, finished⟩ := r
  cases h
  cases hqueue
  exact congrArg (fun n => (StreamItem.ended, Relay.mk [] n true)) (UInt64.add_zero counter)

theorem poll_of_cons {r : Relay} {item : StreamItem} {rest : List StreamItem}
    (h : r.finished = false) (hqueue : r.queue = item :: rest) :
    r.poll = (item, ⟨rest, r.counter + .ofNat item.bytes.length, item.isLast⟩) := by
  obtain ⟨queue, counter, finished⟩ := r
  cases h
  cases hqueue
  rfl

/-- What is no chunk does not count. -/
theorem relayed_poll {r : Relay} (h : ∀ bytes, r.poll.1 ≠ .chunk bytes) :
    r.poll.2.relayed = r.relayed := by
  cases hfinished : r.finished with
  | true => rw [poll_of_finished hfinished]
  | false =>
      cases hqueue : r.queue with
      | nil => rw [poll_of_nil hfinished hqueue]; rfl
      | cons item rest =>
          rw [poll_of_cons hfinished hqueue] at h ⊢
          have hbytes : item.bytes = [] := by
            cases item with
            | chunk bytes => exact absurd rfl (h bytes)
            | failure message => rfl
            | pending => rfl
            | ended => rfl
          simp only [relayed, hbytes, List.length_nil]
          exact congrArg UInt64.toNat (UInt64.add_zero r.counter)

/-! Runs -/

/-- What happens to a relay: it is polled, or its inner stream is given one more item. -/
inductive Event
  | poll
  | push (item : StreamItem)
  deriving DecidableEq, Repr

/-- The items given by some events. -/
def pushes (events : List Event) : List StreamItem :=
  events.filterMap fun
    | .push item => some item
    | .poll => none

/-- A relay with its history: the items given since, those that polls took from the queue, what
polls yielded, and whether one found the queue empty before anything last had been yielded. -/
structure Run where
  relay : Relay
  pushed : List StreamItem
  taken : List StreamItem
  results : List StreamItem
  ranDry : Bool
  deriving DecidableEq, Repr

namespace Run

/-- The run of a new relay. -/
def start (items : List StreamItem) : Run := ⟨.ofItems items, [], [], [], false⟩

/-- Whether an error or an end was yielded. -/
def isOver (run : Run) : Bool := run.results.any isLast

/-- The items at the front of one queue that are gone in a later one. -/
def gone (before after : Relay) : List StreamItem :=
  before.queue.take (before.queue.length - after.queue.length)

/-- The run with one more event. -/
def step (run : Run) : Event → Run
  | .poll =>
    { run with
      relay := run.relay.poll.2
      taken := run.taken ++ gone run.relay run.relay.poll.2
      results := run.results ++ [run.relay.poll.1]
      ranDry := run.ranDry || (run.relay.queue.isEmpty && !run.isOver) }
  | .push item => { run with relay := run.relay.push item, pushed := run.pushed ++ [item] }

/-- The run with more events. -/
def after (run : Run) : List Event → Run
  | [] => run
  | event :: events => (run.step event).after events

/-- The run with more events, of which the polls yield nothing but ends. -/
def idle (run : Run) (events : List Event) : Run :=
  { run with
    relay := { run.relay with queue := run.relay.queue ++ pushes events }
    pushed := run.pushed ++ pushes events
    results := run.results ++ List.replicate (events.count .poll) .ended }

/-- A run in which nothing is lost, held back or made up. -/
structure Faithful (items : List StreamItem) (run : Run) : Prop where
  kept : run.taken ++ run.relay.queue = items ++ run.pushed
  shown : upToLast (settled run.results) =
    settled run.taken ++ if run.ranDry then [.ended] else []
  counted : run.relay.relayed = octets run.results % 2 ^ 64
  finished : run.relay.finished = run.isOver
  closed : run.results.Pairwise fun earlier later => earlier.isLast = true → later = .ended
  dry : run.ranDry = true → run.isOver = true

theorem faithful_start (items : List StreamItem) : (start items).Faithful items where
  kept := (List.append_nil items).symm
  shown := rfl
  counted := rfl
  finished := rfl
  closed := .nil
  dry := (nomatch ·)

/-! One poll -/

/-- A run that is over yields its end. -/
theorem step_poll_of_isOver {items : List StreamItem} {run : Run} (h : run.Faithful items)
    (hover : run.isOver = true) :
    run.step .poll = { run with results := run.results ++ [.ended] } := by
  have hpoll := poll_of_finished (h.finished.trans hover)
  simp only [step, hpoll, hover, gone, Nat.sub_self, List.take_zero, List.append_nil, Bool.not_true,
    Bool.and_false, Bool.or_false]

/-- An empty queue yields an end. -/
theorem step_poll_of_nil {items : List StreamItem} {run : Run} (h : run.Faithful items)
    (hover : run.isOver = false) (hqueue : run.relay.queue = []) :
    run.step .poll =
      { run with
        relay := { run.relay with finished := true }
        results := run.results ++ [.ended]
        ranDry := true } := by
  have hpoll := poll_of_nil (h.finished.trans hover) hqueue
  simp only [step, hpoll, hover, gone, Nat.sub_self, List.take_zero, List.append_nil, hqueue,
    List.isEmpty_nil, Bool.not_false, Bool.and_self, Bool.or_true]

/-- The first item of the queue is taken and yielded. -/
theorem step_poll_of_cons {items : List StreamItem} {run : Run} {item : StreamItem}
    {rest : List StreamItem} (h : run.Faithful items) (hover : run.isOver = false)
    (hqueue : run.relay.queue = item :: rest) :
    run.step .poll =
      { run with
        relay := ⟨rest, run.relay.counter + .ofNat item.bytes.length, item.isLast⟩
        taken := run.taken ++ [item]
        results := run.results ++ [item] } := by
  have hpoll := poll_of_cons (h.finished.trans hover) hqueue
  have hgone : (item :: rest).take ((item :: rest).length - rest.length) = [item] := by
    rw [List.length_cons, Nat.add_sub_cancel_left]
    rfl
  simp only [step, hpoll, gone, hqueue, hgone, List.isEmpty_cons, Bool.false_and, Bool.or_false]

/-! What a run keeps -/

/-- One more result that nothing last came before. -/
theorem Faithful.closed_append {items : List StreamItem} {run : Run} (h : run.Faithful items)
    {item : StreamItem} (hitem : run.isOver = true → item = .ended) :
    (run.results ++ [item]).Pairwise
      fun earlier later => earlier.isLast = true → later = .ended := by
  refine List.pairwise_append.mpr ⟨h.closed, List.pairwise_singleton _ _, ?_⟩
  intro earlier hmem later hlater hlast
  rw [List.mem_singleton.mp hlater]
  exact hitem (List.any_eq_true.mpr ⟨earlier, hmem, hlast⟩)

/-- Until a run is over, all that it yielded but delays is shown. -/
theorem Faithful.settled_results {items : List StreamItem} {run : Run} (h : run.Faithful items)
    (hover : run.isOver = false) :
    run.ranDry = false ∧ settled run.results = settled run.taken := by
  have hdry : run.ranDry = false := by
    rw [Bool.eq_false_iff]
    intro hdry
    rw [h.dry hdry] at hover
    cases hover
  have hshown := h.shown
  rw [upToLast_of_not_any ((any_isLast_settled _).trans hover), hdry] at hshown
  exact ⟨hdry, hshown.trans (List.append_nil _)⟩

theorem Faithful.step_poll_of_isOver {items : List StreamItem} {run : Run}
    (h : run.Faithful items) (hover : run.isOver = true) : (run.step .poll).Faithful items := by
  rw [Run.step_poll_of_isOver h hover]
  have hmore : (run.results ++ [StreamItem.ended]).any isLast = true :=
    (any_isLast_append _ _).trans (Bool.or_true _)
  exact {
    kept := h.kept
    shown := by
      rw [settled_append, upToLast_append, any_isLast_settled, ← isOver, if_pos hover, h.shown]
    counted := by
      rw [octets_append]
      exact h.counted
    finished := (h.finished.trans hover).trans hmore.symm
    closed := h.closed_append fun _ => rfl
    dry := fun _ => hmore }

theorem Faithful.step_poll_of_nil {items : List StreamItem} {run : Run}
    (h : run.Faithful items) (hover : run.isOver = false) (hqueue : run.relay.queue = []) :
    (run.step .poll).Faithful items := by
  rw [Run.step_poll_of_nil h hover hqueue]
  obtain ⟨-, hsettled⟩ := h.settled_results hover
  have hmore : (run.results ++ [StreamItem.ended]).any isLast = true :=
    (any_isLast_append _ _).trans (Bool.or_true _)
  exact {
    kept := h.kept
    shown := by
      rw [settled_append, upToLast_append, any_isLast_settled, ← isOver, hover, hsettled]
      rfl
    counted := by
      rw [octets_append]
      exact h.counted
    finished := hmore.symm
    closed := h.closed_append fun _ => rfl
    dry := fun _ => hmore }

theorem Faithful.step_poll_of_cons {items : List StreamItem} {run : Run} {item : StreamItem}
    {rest : List StreamItem} (h : run.Faithful items) (hover : run.isOver = false)
    (hqueue : run.relay.queue = item :: rest) : (run.step .poll).Faithful items := by
  rw [Run.step_poll_of_cons h hover hqueue]
  obtain ⟨hdry, hsettled⟩ := h.settled_results hover
  have hmore : (run.results ++ [item]).any isLast = item.isLast := by
    rw [any_isLast_append, ← isOver, hover, Bool.false_or]
  have hnone : (settled run.results).any isLast = false := (any_isLast_settled _).trans hover
  exact {
    kept := by
      rw [List.append_assoc, List.singleton_append, ← hqueue]
      exact h.kept
    shown := by
      rw [settled_append, upToLast_append, hnone, hsettled, settled_append, hdry]
      cases item <;> exact (List.append_nil _).symm
    counted := by
      have hcounted : run.relay.counter.toNat = octets run.results % 2 ^ 64 := h.counted
      rw [relayed, UInt64.toNat_add, UInt64.toNat_ofNat', hcounted, octets_append,
        octets_singleton, ← Nat.add_mod]
    finished := hmore.symm
    closed := h.closed_append fun hyes => by rw [hover] at hyes; cases hyes
    dry := fun hyes => by rw [hdry] at hyes; cases hyes }

/-- One event keeps a run faithful. -/
theorem Faithful.step {items : List StreamItem} {run : Run} (h : run.Faithful items)
    (event : Event) : (run.step event).Faithful items := by
  cases event with
  | push item =>
      have hkept : run.taken ++ (run.relay.queue ++ [item]) = items ++ (run.pushed ++ [item]) := by
        rw [← List.append_assoc, h.kept, List.append_assoc]
      exact { h with kept := hkept }
  | poll =>
      cases hover : run.isOver with
      | true => exact h.step_poll_of_isOver hover
      | false =>
          cases hqueue : run.relay.queue with
          | nil => exact h.step_poll_of_nil hover hqueue
          | cons item rest => exact h.step_poll_of_cons hover hqueue

/-- Any number of events keeps a run faithful. -/
theorem Faithful.after {items : List StreamItem} {run : Run} (h : run.Faithful items)
    (events : List Event) : (run.after events).Faithful items := by
  induction events generalizing run with
  | nil => exact h
  | cons event events ih => exact ih (h.step event)

/-- A run that is over idles. -/
theorem Faithful.after_of_isOver {items : List StreamItem} {run : Run} (h : run.Faithful items)
    (hover : run.isOver = true) (events : List Event) : run.after events = run.idle events := by
  induction events generalizing run with
  | nil => simp [Run.after, idle, pushes]
  | cons event events ih =>
      have hnext : (run.step event).isOver = true := by
        cases event with
        | push item => exact hover
        | poll =>
            rw [Run.step_poll_of_isOver h hover]
            exact (any_isLast_append _ _).trans (Bool.or_true _)
      rw [Run.after, ih (h.step event) hnext]
      cases event with
      | push item => simp [idle, Run.step, push, pushes]
      | poll =>
          rw [Run.step_poll_of_isOver h hover]
          simp [idle, pushes, List.replicate_succ]

theorem pushed_after (run : Run) (events : List Event) :
    (run.after events).pushed = run.pushed ++ pushes events := by
  induction events generalizing run with
  | nil => exact (List.append_nil _).symm
  | cons event events ih =>
      rw [Run.after, ih]
      cases event with
      | push item => exact List.append_assoc run.pushed [item] (pushes events)
      | poll => rfl

/-- However polls and further items alternate: what was taken from the queue and what is left of it
are the items that were given; up to the first error or end, what was yielded is what was taken, but
for delays and for the end of an empty queue; the octets of the yielded chunks are counted, and
nothing else is; and behind an error or an end the relay takes and counts nothing more and yields
nothing but ends. -/
theorem after_start (items : List StreamItem) (events : List Event) :
    let run := (start items).after events
    run.taken ++ run.relay.queue = items ++ pushes events ∧
      upToLast (settled run.results) = settled run.taken ++ (if run.ranDry then [.ended] else []) ∧
      (octets run.results < 2 ^ 64 → run.relay.relayed = octets run.results) ∧
      ((∀ bytes, run.relay.poll.1 ≠ .chunk bytes) → run.relay.poll.2.relayed = run.relay.relayed) ∧
      (run.isOver = true → ∀ later, run.after later = run.idle later) ∧
      run.results.countP isFailure ≤ 1 ∧
      run.results.Pairwise fun earlier later => earlier.isLast = true → later = .ended := by
  intro run
  have h : run.Faithful items := (faithful_start items).after events
  have hpushed : run.pushed = pushes events := pushed_after (start items) events
  refine ⟨hpushed ▸ h.kept, h.shown, fun hlt => ?_, relayed_poll, h.after_of_isOver,
    countP_isFailure_le_one h.closed, h.closed⟩
  exact h.counted.trans (Nat.mod_eq_of_lt hlt)

/-- A relay that is polled again and given more after an error. -/
theorem after_start_reset :
    let run := (start [.chunk [97, 98], .pending, .failure "reset".toList, .chunk [99]]).after
      [.poll, .poll, .push .ended, .poll, .poll]
    octets run.results < 2 ^ 64 ∧ run.isOver = true ∧ run.relay.relayed = 2 ∧
      run.after [.push .pending, .poll] = run.idle [.push .pending, .poll] := by
  intro run
  obtain ⟨-, -, hcounted, -, hidle, -, -⟩ := after_start
    [.chunk [97, 98], .pending, .failure "reset".toList, .chunk [99]]
    [.poll, .poll, .push .ended, .poll, .poll]
  have hlt : octets run.results < 2 ^ 64 := by decide
  have hover : run.isOver = true := by decide
  exact ⟨hlt, hover, hcounted hlt, hidle hover _⟩

end Run
end Relay
end TenantScope
