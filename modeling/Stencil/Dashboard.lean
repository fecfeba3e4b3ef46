import Stencil.Files.Path
/-!
# The reload dashboard

While templates are watched, a dashboard lists the reloads as they happen. A *feed* carries the
news from the watcher to the dashboard: a reload started, or finished with the views it rebuilt or
the failure it met. Once closed, a feed takes no more news, and reading it hands out what it
still holds, then reports its end.

The dashboard shows the roots it watches, then one row per reload: a spinner while running, a
check mark and the views rebuilt, or a cross and the failure. A reload is named by its path
relative to the first root it lies inside, else by its last part. When the window is too short,
only the latest rows that fit under the heading are shown. The dashboard quits on `q`, on
`ctrl+c`, or when the feed ends; after any news it waits for the next. Run on a closed feed, it
takes every piece of news in order, then the end, and quits.
-/

namespace Stencil

/-- News from the watcher. -/
inductive FeedEvent where
  | started (path : String)
  | finished (path : String) (views : List String) (failure : Option String)
deriving DecidableEq, Repr

/-- A feed: the news not yet read, oldest first, and whether it was closed. -/
structure Feed where
  pending : List FeedEvent := []
  closed : Bool := false

namespace Feed

/-- Publishes news, unless the feed is closed. -/
def publish (f : Feed) (e : FeedEvent) : Feed :=
  if f.closed then f else { f with pending := f.pending ++ [e] }

/-- Closes the feed. -/
def close (f : Feed) : Feed :=
  { f with closed := true }

/-- Reads the oldest news, if there is any. -/
def read (f : Feed) : Option FeedEvent × Feed :=
  match f.pending with
  | e :: rest => (some e, { f with pending := rest })
  | [] => (none, f)

end Feed

/-- Where a reload stands. -/
inductive ReloadStatus where
  | running
  | completed
  | failed
deriving DecidableEq, Repr

/-- One reload as the dashboard shows it. -/
structure ReloadRow where
  path : String
  name : String
  status : ReloadStatus
  views : List String := []
  failure : String := ""
deriving Repr

/-- What the dashboard is told. -/
inductive DashboardMessage where
  | key (k : String)
  | resize (width height : Int)
  | tick
  | news (e : FeedEvent)
  | ended
  | other

/-- What the dashboard asks for after a message. -/
inductive DashboardEffect where
  /-- Nothing. -/
  | idle
  /-- To quit. -/
  | quit
  /-- The next news from the feed. -/
  | awaitFeed
  /-- The next frame of the spinner, later. -/
  | nextFrame
  /-- The next news and the next frame, when it starts. -/
  | begin
deriving DecidableEq, Repr

/-- The frames of the spinner. -/
def spinnerFrames : List String := ["⣾ ", "⣽ ", "⣻ ", "⢿ ", "⡿ ", "⣟ ", "⣯ ", "⣷ "]

/-- The dashboard: the roots watched, the reloads, the window size and the spinner frame. -/
structure Dashboard where
  roots : List String
  rows : List ReloadRow := []
  width : Int := 0
  height : Int := 0
  frame : Nat := 0

namespace Dashboard

/-- The name of a reloaded path: relative to the first root it lies inside, else its last part. -/
def displayName (d : Dashboard) (path : String) : String :=
  match d.roots.findSome? fun root =>
      match Path.rel root path with
      | .ok r => if r.startsWith ".." then none else some r
      | .error _ => none with
  | some r => r
  | none => Path.base path

/-- Records a finished reload on the latest running row of its path, or on a new row. -/
def finish (d : Dashboard) (path : String) (views : List String) (failure : Option String) :
    Dashboard :=
  let status := if failure.isSome then ReloadStatus.failed else .completed
  let update (r : ReloadRow) : ReloadRow :=
    { r with views, status, failure := failure.getD "" }
  let idx := (d.rows.zip (List.range d.rows.length)).reverse.findSome? fun (r, i) =>
    if r.path == path && r.status == .running then some i else none
  match idx with
  | some i => { d with rows := d.rows.modify i update }
  | none => { d with rows := d.rows ++ [update { path, name := d.displayName path, status := .running }] }

/-- What the dashboard asks for when it starts. -/
def init (_ : Dashboard) : DashboardEffect := .begin

/-- Takes a message. -/
def update (d : Dashboard) : DashboardMessage → Dashboard × DashboardEffect
  | .key k => (d, if k == "q" || k == "ctrl+c" then .quit else .idle)
  | .resize w h => ({ d with width := w, height := h }, .idle)
  | .tick => ({ d with frame := (d.frame + 1) % spinnerFrames.length }, .nextFrame)
  | .news (.started path) =>
    ({ d with rows := d.rows ++ [{ path, name := d.displayName path, status := .running }] }, .awaitFeed)
  | .news (.finished path views failure) => (d.finish path views failure, .awaitFeed)
  | .ended => (d, .quit)
  | .other => (d, .idle)

/-- The text of one row. -/
def rowText (d : Dashboard) (r : ReloadRow) : String :=
  match r.status with
  | .running => spinnerFrames.getD d.frame "" ++ " " ++ r.name
  | .completed =>
    "✓ " ++ r.name ++ (if r.views.isEmpty then "" else " → " ++ ", ".intercalate r.views)
  | .failed => "✗ " ++ r.name ++ (if r.failure.isEmpty then "" else ": " ++ r.failure)

/-- The screen: the heading, then the rows that fit, or a note that nothing happened yet. -/
def view (d : Dashboard) : String :=
  let heading := "watching " ++ ", ".intercalate d.roots ++ "\n"
  if d.rows.isEmpty then heading ++ "waiting for changes, press q to quit\n"
  else
    let fit := d.height - 1
    let shown := if d.height > 0 && (d.rows.length : Int) > fit then d.rows.drop (d.rows.length - fit.toNat)
      else d.rows
    heading ++ String.join (shown.map fun r => d.rowText r ++ "\n")

/-- Runs the dashboard on a feed with no other input, one read of the feed at a time, for at most
`fuel` reads: the dashboard after them, and whether it quit. It quits once a closed feed is
empty; an open feed that is empty would keep it waiting. -/
def follow (d : Dashboard) (f : Feed) : Nat → Dashboard × Bool
  | 0 => (d, false)
  | fuel + 1 =>
    match f.read with
    | (some e, f) => (d.update (.news e)).1.follow f fuel
    | (none, _) => if f.closed then ((d.update .ended).1, true) else (d, false)

/-- Runs the dashboard on a feed until the feed ends: the dashboard, and whether it quit. -/
def run (d : Dashboard) (f : Feed) : Dashboard × Bool :=
  d.follow f (f.pending.length + 1)

end Dashboard

end Stencil
