import Stencil.Dashboard
import Stencil.Proofs.EventLog
import Mathlib.Data.List.Infix
/-!
# The reload feed among goroutines

The watch loop publishes reload news on the feed while the dashboard reads it, and the feed is
closed, once or more, when the watch ends. The feed is a channel of at most `capacity` messages
and a closed signal: the messages in the channel and the signal are the `pending` news and the
`closed` flag of a `Feed`. A step here is one select of a goroutine, or a call of `Close`.

Publishing news looks at the closed signal first, and returns at once on a closed feed; then it
waits for room in the channel or for the close, and takes either when both are there. `Read`
waits for news or for the close, and takes either when both are there; past the close it takes one
more look at the channel, and reports the end when the channel is empty. The dashboard's reader is
one chain of reads: the dashboard starts it, asks for the next read after each piece of news it
takes (`Dashboard.update`), and quits at the end of the feed.

What can be seen of a run is kept in a log: the news sent into the channel and the news dropped
on a closed feed, each call of `Close`, the news each read gave, and the end.

The invariant `Sound` carries the rest: the news read and then the news in the channel are the
news sent; the channel stays within its capacity; news is dropped and the end read only after a
close, the end when every piece of news sent was read; and nothing is read after the end. From it,
`run_delivers_news`.
-/

namespace Stencil

namespace Feeding

/-- The messages the channel of a feed holds at most. -/
def capacity : Nat := 64

/-- Where the publishing goroutine is: between calls, or past its first look at the closed signal
with news to send. -/
inductive Publisher where
  | idle
  | sending (e : FeedEvent)
deriving DecidableEq, Repr

/-- Where the dashboard's reader is: in `Read` waiting for news or the close; in `Read` past the
close; back from `Read` with news, or with `none` at the end, for the dashboard to take; with no
read asked for; or quit. -/
inductive Reader where
  | waiting
  | closing
  | holding (r : Option FeedEvent)
  | idle
  | quit
deriving DecidableEq, Repr

/-- The reader once the dashboard asked for something: the next read, or to quit. -/
def Reader.after : DashboardEffect → Reader
  | .awaitFeed | .begin => .waiting
  | .quit => .quit
  | .idle | .nextFrame => .idle

/-- The message the dashboard is told of what `Read` gave: the news, or the end of the feed. -/
def feedMessage : Option FeedEvent → DashboardMessage
  | some e => .news e
  | none => .ended

/-- What can be seen of the feed. -/
inductive Event where
  | sent (e : FeedEvent)
  | dropped (e : FeedEvent)
  | closed
  | read (e : FeedEvent)
  | ended
deriving DecidableEq, Repr

/-- The steps: the watch loop calls `Reloading` or `Reloaded` with news, up to its first look at
the closed signal; its send is taken; the close is taken instead; a call of `Close`; `Read` takes
news; `Read` takes the close; `Read` looks at the channel past the close; the dashboard takes what
`Read` gave. -/
inductive Action where
  | publish (e : FeedEvent)
  | send
  | giveUp
  | close
  | receive
  | seeClosed
  | drain
  | deliver
deriving DecidableEq, Repr

/-- The steps of the dashboard's reader. -/
def Action.byReader : Action → Bool
  | .receive | .seeClosed | .drain | .deliver => true
  | .publish _ | .send | .giveUp | .close => false

/-- The feed as its goroutines share it. -/
structure State where
  /-- The news in the channel, and the closed signal. -/
  feed : Feed := {}
  publisher : Publisher := .idle
  dashboard : Dashboard
  reader : Reader
  /-- What was seen so far. -/
  log : List Event := []

namespace State

/-- An open, empty feed, and a dashboard that has just started. -/
def init (d : Dashboard) : State := { dashboard := d, reader := Reader.after d.init }

/-- The watch loop publishes news: on a closed feed the news is dropped at once. -/
def publish (s : State) (e : FeedEvent) : State :=
  if s.feed.closed then { s with log := s.log ++ [.dropped e] }
  else { s with publisher := .sending e }

/-- The news goes into the channel. -/
def send (s : State) (e : FeedEvent) : State :=
  { s with feed := { s.feed with pending := s.feed.pending ++ [e] }, publisher := .idle,
           log := s.log ++ [.sent e] }

/-- The publisher sees the close instead, and drops the news. -/
def giveUp (s : State) (e : FeedEvent) : State :=
  { s with publisher := .idle, log := s.log ++ [.dropped e] }

/-- A call of `Close`; the signal is closed once. -/
def close (s : State) : State :=
  { s with feed := s.feed.close, log := s.log ++ [.closed] }

/-- `Read` returns news taken from the channel, which is left as `f`. -/
def take (s : State) (e : FeedEvent) (f : Feed) : State :=
  { s with feed := f, reader := .holding (some e), log := s.log ++ [.read e] }

/-- `Read` past the close: the news at the front of the channel, or the end when it is empty. -/
def drain (s : State) : State :=
  match s.feed.read with
  | (some e, f) => s.take e f
  | (none, _) => { s with reader := .holding none, log := s.log ++ [.ended] }

/-- The dashboard takes what `Read` gave, and asks for what comes next. -/
def deliver (s : State) (r : Option FeedEvent) : State :=
  { s with dashboard := (s.dashboard.update (feedMessage r)).1,
           reader := Reader.after (s.dashboard.update (feedMessage r)).2 }

/-- One step, when it can be taken. -/
def step (s : State) : Action → Option State
  | .publish e => if s.publisher = .idle then some (s.publish e) else none
  | .send =>
    match s.publisher with
    | .sending e => if s.feed.pending.length < capacity then some (s.send e) else none
    | .idle => none
  | .giveUp =>
    match s.publisher with
    | .sending e => if s.feed.closed then some (s.giveUp e) else none
    | .idle => none
  | .close => some s.close
  | .receive =>
    if s.reader = .waiting then
      match s.feed.read with
      | (some e, f) => some (s.take e f)
      | (none, _) => none
    else none
  | .seeClosed =>
    if s.reader = .waiting ∧ s.feed.closed then some { s with reader := .closing } else none
  | .drain => if s.reader = .closing then some s.drain else none
  | .deliver =>
    match s.reader with
    | .holding r => some (s.deliver r)
    | _ => none

/-- Steps taken one after the other, when each can be. -/
def run (s : State) : List Action → Option State
  | [] => some s
  | a :: as => (s.step a).bind fun s' => s'.run as

end State

/-! ### What the log shows -/

/-- The news of a send. -/
def Event.sentNews : Event → Option FeedEvent
  | .sent e => some e
  | .dropped _ | .closed | .read _ | .ended => none

/-- The news of a read. -/
def Event.readNews : Event → Option FeedEvent
  | .read e => some e
  | .sent _ | .dropped _ | .closed | .ended => none

/-- The news sent, in order. -/
def sends (log : List Event) : List FeedEvent := log.filterMap Event.sentNews

/-- The news read, in order. -/
def reads (log : List Event) : List FeedEvent := log.filterMap Event.readNews

@[simp] lemma sends_append (l l' : List Event) : sends (l ++ l') = sends l ++ sends l' :=
  List.filterMap_append

@[simp] lemma reads_append (l l' : List Event) : reads (l ++ l') = reads l ++ reads l' :=
  List.filterMap_append

@[simp] lemma sends_cons (ev : Event) (l : List Event) :
    sends (ev :: l) = (ev.sentNews).toList ++ sends l := by
  cases ev <;> rfl

@[simp] lemma reads_cons (ev : Event) (l : List Event) :
    reads (ev :: l) = (ev.readNews).toList ++ reads l := by
  cases ev <;> rfl

@[simp] lemma sends_nil : sends [] = [] := rfl

@[simp] lemma reads_nil : reads [] = [] := rfl

/-- Every occurrence of `ev` in the log comes after a call of `Close`. -/
def AfterClose (ev : Event) (log : List Event) : Prop :=
  Preceded (fun L e => e = ev → .closed ∈ L) log

/-- At every end in the log, the news read was the news sent, and nothing is read after it. -/
def EndsWell (log : List Event) : Prop :=
  ∀ L M, log = L ++ .ended :: M → reads L = sends L ∧ reads M = []

section Append

variable {log : List Event} {ev e : Event}

lemma AfterClose.append (h : AfterClose ev log) (hnew : e = ev → .closed ∈ log) :
    AfterClose ev (log ++ [e]) :=
  Preceded.snoc h hnew

lemma EndsWell.append (h : EndsWell log) (hread : .ended ∈ log → e.readNews = none)
    (hend : e = .ended → reads log = sends log) : EndsWell (log ++ [e]) := by
  intro L M hsplit
  rcases eq_or_of_append_singleton hsplit with ⟨rfl, rfl, rfl⟩ | ⟨M', rfl, hlog⟩
  · exact ⟨hend rfl, rfl⟩
  · obtain ⟨hL, hM'⟩ := h L M' hlog
    have hended : Event.ended ∈ log := hlog ▸ List.mem_append_right L List.mem_cons_self
    exact ⟨hL, by simp [hM', hread hended]⟩

end Append

/-! ### The invariant -/

namespace State

/-- What every run keeps. -/
structure Sound (s : State) : Prop where
  /-- The news read, then the news in the channel, are the news sent. -/
  conserves : reads s.log ++ s.feed.pending = sends s.log
  /-- The channel holds at most its capacity. -/
  bounded : s.feed.pending.length ≤ capacity
  /-- A closed signal was closed by a call of `Close`. -/
  closeLogged : s.feed.closed = true → .closed ∈ s.log
  /-- `Read` gets past the close only on a closed feed. -/
  closing : s.reader = .closing → s.feed.closed = true
  /-- The end was read exactly when the reader holds it or has quit. -/
  pastEnd : .ended ∈ s.log ↔ s.reader = .holding none ∨ s.reader = .quit
  /-- Until it quits, the reader has a read asked for. -/
  active : s.reader ≠ .idle
  /-- News is dropped only after a close. -/
  drops : ∀ e, AfterClose (.dropped e) s.log
  /-- The end is read only after a close. -/
  endsClosed : AfterClose .ended s.log
  /-- At the end the news read was the news sent, and nothing is read after it. -/
  endsWell : EndsWell s.log

variable {s : State}

lemma init_sound (d : Dashboard) : (init d).Sound where
  conserves := rfl
  bounded := by simp [init, capacity]
  closeLogged := by simp [init]
  closing := by simp [init, Dashboard.init, Reader.after]
  pastEnd := by simp [init, Dashboard.init, Reader.after]
  active := by simp [init, Dashboard.init, Reader.after]
  drops := fun _ => Preceded.nil
  endsClosed := Preceded.nil
  endsWell := fun L M h => by simp [init] at h

/-- Logging an event that is neither news sent nor read nor the end, after a close if it drops
news, with the channel, the signal and the reader left as they were, keeps the invariant. -/
lemma Sound.record (hs : s.Sound) {s' : State} {ev : Event} (hfeed : s'.feed = s.feed)
    (hreader : s'.reader = s.reader) (hlog : s'.log = s.log ++ [ev]) (hsent : ev.sentNews = none)
    (hread : ev.readNews = none) (hend : ev ≠ .ended) (hdrop : ∀ e, ev = .dropped e → .closed ∈ s.log) :
    s'.Sound where
  conserves := by simp [hfeed, hlog, hsent, hread, hs.conserves]
  bounded := hfeed ▸ hs.bounded
  closeLogged := fun h => hlog ▸ List.mem_append_left _ (hs.closeLogged (hfeed ▸ h))
  closing := fun h => hfeed ▸ hs.closing (hreader ▸ h)
  pastEnd := by simp [hlog, hreader, Ne.symm hend, hs.pastEnd]
  active := hreader ▸ hs.active
  drops := fun e => hlog ▸ (hs.drops e).append (hdrop e)
  endsClosed := hlog ▸ hs.endsClosed.append fun h => absurd h hend
  endsWell := hlog ▸ hs.endsWell.append (fun _ => hread) fun h => absurd h hend

/-- A step of the reader that reads nothing, into a state that asks for a read or has quit,
keeps the invariant when it stays on the same side of the end, and gets past the close only on a
closed feed. -/
lemma Sound.move (hs : s.Sound) {s' : State} (hfeed : s'.feed = s.feed) (hlog : s'.log = s.log)
    (hpast : (s'.reader = .holding none ∨ s'.reader = .quit) ↔
      (s.reader = .holding none ∨ s.reader = .quit))
    (hactive : s'.reader ≠ .idle) (hclosing : s'.reader = .closing → s.feed.closed = true) :
    s'.Sound where
  conserves := hfeed ▸ hlog ▸ hs.conserves
  bounded := hfeed ▸ hs.bounded
  closeLogged := hfeed ▸ hlog ▸ hs.closeLogged
  closing := hfeed ▸ hclosing
  pastEnd := by rw [hlog, hpast]; exact hs.pastEnd
  active := hactive
  drops := hlog ▸ hs.drops
  endsClosed := hlog ▸ hs.endsClosed
  endsWell := hlog ▸ hs.endsWell

/-! ### One step -/

lemma Feed.read_cons {f : Feed} {e : FeedEvent} {rest : List FeedEvent} (h : f.pending = e :: rest) :
    f.read = (some e, { f with pending := rest }) := by
  simp [Feed.read, h]

lemma Feed.read_nil {f : Feed} (h : f.pending = []) : f.read = (none, f) := by
  simp [Feed.read, h]

/-- What a read takes from the channel. -/
lemma Feed.read_some {f f' : Feed} {e : FeedEvent} (h : f.read = (some e, f')) :
    f.pending = e :: f'.pending ∧ f'.closed = f.closed := by
  cases hp : f.pending with
  | nil => simp [Feed.read_nil hp] at h
  | cons x rest =>
    rw [Feed.read_cons hp, Prod.mk.injEq, Option.some.injEq] at h
    obtain ⟨rfl, rfl⟩ := h
    exact ⟨rfl, rfl⟩

lemma Feed.read_none {f f' : Feed} (h : f.read = (none, f')) : f.pending = [] := by
  cases hp : f.pending with
  | nil => rfl
  | cons x rest => simp [Feed.read_cons hp] at h

lemma drain_of_read_some {e : FeedEvent} {f : Feed} (h : s.feed.read = (some e, f)) :
    s.drain = s.take e f := by
  simp [drain, h]

lemma drain_of_read_none {f : Feed} (h : s.feed.read = (none, f)) :
    s.drain = { s with reader := .holding none, log := s.log ++ [.ended] } := by
  simp [drain, h]

/-- After news the dashboard asks for the next read. -/
@[simp] lemma deliver_some_reader (e : FeedEvent) : (s.deliver (some e)).reader = .waiting := by
  cases e <;> rfl

/-- At the end of the feed the dashboard quits. -/
@[simp] lemma deliver_none_reader : (s.deliver none).reader = .quit := rfl

@[simp] lemma deliver_feed (r : Option FeedEvent) : (s.deliver r).feed = s.feed := rfl

@[simp] lemma deliver_log (r : Option FeedEvent) : (s.deliver r).log = s.log := rfl

lemma Sound.publish (hs : s.Sound) (e : FeedEvent) : (s.publish e).Sound := by
  unfold State.publish
  split_ifs with hc
  · exact hs.record rfl rfl rfl rfl rfl (by simp) fun _ _ => hs.closeLogged hc
  · exact hs.move rfl rfl Iff.rfl hs.active hs.closing

lemma Sound.send (hs : s.Sound) {e : FeedEvent} (hroom : s.feed.pending.length < capacity) :
    (s.send e).Sound where
  conserves := by simp [State.send, Event.sentNews, Event.readNews, ← hs.conserves]
  bounded := by
    simp only [State.send, List.length_append, List.length_singleton]
    omega
  closeLogged := fun h => List.mem_append_left _ (hs.closeLogged h)
  closing := hs.closing
  pastEnd := by simp [State.send, hs.pastEnd]
  active := hs.active
  drops := fun e' => (hs.drops e').append (by simp)
  endsClosed := hs.endsClosed.append (by simp)
  endsWell := hs.endsWell.append (fun _ => rfl) (by simp)

lemma Sound.giveUp (hs : s.Sound) {e : FeedEvent} (hc : s.feed.closed = true) :
    (s.giveUp e).Sound :=
  hs.record rfl rfl rfl rfl rfl (by simp) fun _ _ => hs.closeLogged hc

lemma Sound.close (hs : s.Sound) : s.close.Sound where
  conserves := by simpa [State.close, Feed.close, Event.sentNews, Event.readNews] using hs.conserves
  bounded := hs.bounded
  closeLogged := fun _ => List.mem_append_right _ List.mem_cons_self
  closing := fun _ => rfl
  pastEnd := by simp [State.close, hs.pastEnd]
  active := hs.active
  drops := fun e => (hs.drops e).append (by simp)
  endsClosed := hs.endsClosed.append (by simp)
  endsWell := hs.endsWell.append (fun _ => rfl) (by simp)

/-- A read that takes news from the channel keeps the invariant. -/
lemma Sound.take (hs : s.Sound) (hr : s.reader = .waiting ∨ s.reader = .closing) {e : FeedEvent}
    {f : Feed} (hread : s.feed.read = (some e, f)) : (s.take e f).Sound := by
  obtain ⟨hpending, hclosed⟩ := Feed.read_some hread
  -- The reader is in `Read`: the end was not read yet.
  have hnotEnded : Event.ended ∉ s.log := by
    rw [hs.pastEnd]
    rcases hr with hr | hr <;> simp [hr]
  exact {
    conserves := by
      simp [State.take, Event.sentNews, Event.readNews, ← hs.conserves, hpending]
    bounded := by
      have := hs.bounded
      rw [hpending, List.length_cons] at this
      simp only [State.take]
      omega
    closeLogged := fun h => List.mem_append_left _ (hs.closeLogged (hclosed ▸ h))
    closing := by simp [State.take]
    pastEnd := by simp [State.take, hnotEnded]
    active := by simp [State.take]
    drops := fun e' => (hs.drops e').append (by simp)
    endsClosed := hs.endsClosed.append (by simp)
    endsWell := hs.endsWell.append (fun h => absurd h hnotEnded) (by simp) }

/-- Reading the end of an empty channel past the close keeps the invariant. -/
lemma Sound.finish (hs : s.Sound) (hr : s.reader = .closing) (hempty : s.feed.pending = []) :
    ({ s with reader := .holding none, log := s.log ++ [.ended] } : State).Sound where
  conserves := by simpa [Event.sentNews, Event.readNews] using hs.conserves
  bounded := hs.bounded
  closeLogged := fun h => List.mem_append_left _ (hs.closeLogged h)
  closing := by simp
  pastEnd := by simp
  active := by simp
  drops := fun e => (hs.drops e).append (by simp)
  endsClosed := hs.endsClosed.append fun _ => hs.closeLogged (hs.closing hr)
  endsWell := hs.endsWell.append (fun _ => rfl) fun _ => by simpa [hempty] using hs.conserves

lemma Sound.drain (hs : s.Sound) (hr : s.reader = .closing) : s.drain.Sound := by
  rcases hread : s.feed.read with ⟨_ | e, f⟩
  · rw [drain_of_read_none hread]
    exact hs.finish hr (Feed.read_none hread)
  · rw [drain_of_read_some hread]
    exact hs.take (.inr hr) hread

lemma Sound.deliver (hs : s.Sound) {r : Option FeedEvent} (hr : s.reader = .holding r) :
    (s.deliver r).Sound := by
  cases r with
  | none => exact hs.move rfl rfl (by simp [hr]) (by simp) (by simp)
  | some e => exact hs.move rfl rfl (by simp [hr]) (by simp) (by simp)

/-- Every step keeps the invariant. -/
lemma Sound.step (hs : s.Sound) {a : Action} {s' : State} (h : s.step a = some s') : s'.Sound := by
  cases a with
  | publish e =>
    rw [State.step] at h
    split_ifs at h
    cases h
    exact hs.publish e
  | send =>
    rw [State.step] at h
    cases hp : s.publisher with
    | idle => simp [hp] at h
    | sending e =>
      simp only [hp] at h
      split_ifs at h with hroom
      cases h
      exact hs.send hroom
  | giveUp =>
    rw [State.step] at h
    cases hp : s.publisher with
    | idle => simp [hp] at h
    | sending e =>
      simp only [hp] at h
      split_ifs at h with hc
      cases h
      exact hs.giveUp hc
  | close =>
    cases h
    exact hs.close
  | receive =>
    rw [State.step] at h
    split_ifs at h with hr
    rcases hread : s.feed.read with ⟨_ | e, f⟩
    · simp [hread] at h
    · simp only [hread, Option.some.injEq] at h
      subst h
      exact hs.take (.inl hr) hread
  | seeClosed =>
    rw [State.step] at h
    split_ifs at h with hr
    cases h
    exact hs.move rfl rfl (by simp [hr.1]) (by simp) fun _ => hr.2
  | drain =>
    rw [State.step] at h
    split_ifs at h with hr
    cases h
    exact hs.drain hr
  | deliver =>
    rw [State.step] at h
    cases hr : s.reader with
    | holding r =>
      simp only [hr, Option.some.injEq] at h
      subst h
      exact hs.deliver hr
    | waiting | closing | idle | quit => simp [hr] at h

lemma Sound.run (hs : s.Sound) {acts : List Action} {s' : State} (h : s.run acts = some s') :
    s'.Sound := by
  induction acts generalizing s with
  | nil =>
    cases h
    exact hs
  | cons a as ih =>
    simp only [State.run] at h
    cases ha : s.step a with
    | none => simp [ha] at h
    | some s₁ =>
      rw [ha, Option.bind_some] at h
      exact ih (hs.step ha) h

/-! ### The reader reaches the end of a closed feed -/

/-- The reader can, by its own steps alone, read to the end of the feed, and the dashboard quit. -/
def CanEnd (s : State) : Prop :=
  ∃ acts, (∀ a ∈ acts, a.byReader = true) ∧
    ∃ s', s.run acts = some s' ∧ s'.reader = .quit ∧ .ended ∈ s'.log

lemma CanEnd.of_step {a : Action} {s₁ : State} (ha : a.byReader = true) (h : s.step a = some s₁)
    (h₁ : s₁.CanEnd) : s.CanEnd := by
  obtain ⟨acts, hreader, s', hrun, hquit, hended⟩ := h₁
  refine ⟨a :: acts, ?_, s', ?_, hquit, hended⟩
  · intro b hb
    rcases List.mem_cons.1 hb with rfl | hb
    · exact ha
    · exact hreader b hb
  · simp [State.run, h, hrun]

lemma step_seeClosed (hr : s.reader = .waiting) (hc : s.feed.closed = true) :
    s.step .seeClosed = some { s with reader := .closing } := by
  simp [step, hr, hc]

lemma step_drain (hr : s.reader = .closing) : s.step .drain = some s.drain := by
  simp [step, hr]

lemma step_deliver {r : Option FeedEvent} (hr : s.reader = .holding r) :
    s.step .deliver = some (s.deliver r) := by
  simp [step, hr]

lemma Sound.canEnd_of_end (hs : s.Sound) (hr : s.reader = .holding none ∨ s.reader = .quit) :
    s.CanEnd := by
  have hended := hs.pastEnd.2 hr
  rcases hr with hr | hr
  · exact CanEnd.of_step rfl (step_deliver hr) ⟨[], by simp, _, rfl, by simp, hended⟩
  · exact ⟨[], by simp, s, rfl, hr, hended⟩

/-- On a closed feed the reader, by its own steps alone, reads every piece of news left in the
channel and then the end, and the dashboard quits. -/
lemma Sound.canEnd (hs : s.Sound) (hc : s.feed.closed = true) : s.CanEnd := by
  -- On the news left: each read past the close takes one, and the dashboard asks for the next.
  induction hn : s.feed.pending.length using Nat.strong_induction_on generalizing s with
  | _ n ih =>
    have hclosing : ∀ t : State, t.Sound → t.feed.closed = true → t.feed.pending.length = n →
        t.reader = .closing → t.CanEnd := by
      intro t ht htc htn hr
      have hs₁ := ht.drain hr
      refine CanEnd.of_step rfl (step_drain hr) ?_
      rcases hread : t.feed.read with ⟨_ | e, f⟩
      · rw [drain_of_read_none hread] at hs₁ ⊢
        exact hs₁.canEnd_of_end (.inl rfl)
      · rw [drain_of_read_some hread] at hs₁ ⊢
        obtain ⟨hpending, hclosed⟩ := Feed.read_some hread
        have hs₂ := hs₁.deliver rfl
        refine CanEnd.of_step rfl (step_deliver rfl) ?_
        exact ih _ (by simp [State.take, ← htn, hpending]) hs₂ (hclosed.trans htc) rfl
    cases hr : s.reader with
    | waiting =>
      have hstep := step_seeClosed hr hc
      exact CanEnd.of_step rfl hstep (hclosing _ (hs.step hstep) hc hn rfl)
    | closing => exact hclosing s hs hc hn hr
    | holding r =>
      cases r with
      | none => exact hs.canEnd_of_end (.inl hr)
      | some e =>
        -- The dashboard takes the news and asks for the next read, which sees the close.
        have hs₁ := hs.deliver hr
        have hstep := step_seeClosed (deliver_some_reader e) (by simpa using hc)
        refine CanEnd.of_step rfl (step_deliver hr) (CanEnd.of_step rfl hstep ?_)
        exact hclosing _ (hs₁.step hstep) (by simpa using hc) (by simpa using hn) rfl
    | idle => exact absurd hr hs.active
    | quit => exact hs.canEnd_of_end (.inr hr)

end State

/-- In every run of the feed's goroutines from an open, empty feed and a dashboard that has just
started, with any number of calls of `Close`: the channel stays within its capacity; the news read
is a prefix of the news sent, so no news is read twice or out of order; news is dropped only after
a close, so a publish that returned before a close sent its news; and at the end of the feed, which
`Read` reports only after a close, the news read is all the news sent, among it every piece sent
before any close, in order, and nothing is read after it. On a closed feed the reader, by its own
steps alone, gets to the end and the dashboard quits. -/
theorem run_delivers_news (d : Dashboard) (acts : List Action) (s : State)
    (h : (State.init d).run acts = some s) :
    s.feed.pending.length ≤ capacity ∧
    reads s.log <+: sends s.log ∧
    (∀ e L M, s.log = L ++ .dropped e :: M → .closed ∈ L) ∧
    (∀ L M, s.log = L ++ .ended :: M →
      .closed ∈ L ∧ reads L = sends L ∧ reads M = [] ∧
      ∀ L₀ L₁, L = L₀ ++ .closed :: L₁ → sends L₀ <+: reads L) ∧
    (s.feed.closed = true → ∃ acts', (∀ a ∈ acts', a.byReader = true) ∧
      ∃ s', s.run acts' = some s' ∧ s'.reader = .quit ∧ .ended ∈ s'.log) := by
  have hs : s.Sound := (State.init_sound d).run h
  refine ⟨hs.bounded, ⟨s.feed.pending, hs.conserves⟩, fun e L M hlog => hs.drops e L _ M hlog rfl,
    fun L M hlog => ?_, hs.canEnd⟩
  obtain ⟨hread, hafter⟩ := hs.endsWell L M hlog
  refine ⟨hs.endsClosed L _ M hlog rfl, hread, hafter, fun L₀ L₁ hL => ?_⟩
  rw [hread, hL, sends_append]
  exact List.prefix_append _ _

/-- News published before the close is read before the end, and the dashboard quits. -/
theorem news_read_before_end :
    ∃ s, (State.init { roots := ["views"] }).run [.publish (.started "views/a.html"), .send,
        .close, .receive, .deliver, .seeClosed, .drain, .deliver] = some s ∧
      s.reader = .quit ∧ ∀ L M, s.log = L ++ .ended :: M → .closed ∈ L ∧ reads L = sends L := by
  have h := run_delivers_news { roots := ["views"] } [.publish (.started "views/a.html"), .send,
    .close, .receive, .deliver, .seeClosed, .drain, .deliver] _ rfl
  refine ⟨_, rfl, rfl, fun L M hlog => ?_⟩
  obtain ⟨hclosed, hread, -⟩ := h.2.2.2.1 L M hlog
  exact ⟨hclosed, hread⟩

end Feeding

end Stencil
