import Stencil.Host
import Stencil.Config.Basic
/-!
# Cache stores

Where the encoded cache is kept between runs. A *file store* keeps it as a file: reading a
missing or empty file finds no cache, and writing makes the directories the file lies in, then
puts the new text in place at once. A *database store* keeps it as the single row of a table in
a database file, which it opens on first use (making its directory and the table) and keeps open
until closed; while open, the database keeps its write-ahead log and shared-memory files next to
it. A database file holds its header and, once written, the cache text.

Failures carry the operation's own message around the reason: reading, creating the location,
writing, or clearing.
-/

namespace Stencil

/-- The first bytes of every database file. -/
def databaseHeader : String := "SQLite format 3\x00"

/-- A store of the encoded cache. -/
inductive CacheStore where
  | file (path : String)
  | database (path : String) (opened : Bool)
deriving Inhabited

namespace CacheStore

/-- The store a configuration names, at its cache path. -/
def ofConfig (c : Config) : Except Fault CacheStore :=
  match c.cache.backend with
  | "" | "file" => .ok (.file (Path.clean c.cachePath))
  | "sqlite" => .ok (.database (Path.clean c.cachePath) false)
  | other => .error (((Fault.condition .invalidCacheBackend).wrap "cannot open view cache").about
      "backend" other)

/-- Where the store keeps the cache. -/
def location : CacheStore → String
  | .file p => p
  | .database p _ => p

/-- The fault of a store operation: the reason wrapped in the operation's message. -/
def failure (msg reason path : String) : Fault :=
  ((Fault.foreign reason).wrap msg).about "path" path

/-- The companion files an open database keeps. -/
def companions (p : String) : List String := [p ++ "-wal", p ++ "-shm"]

/-- Opens a database at a path: makes its directory, checks its header, and makes the table;
the store opened, or the reason it could not be. -/
def openDatabase (p : String) : HostM (Except String Unit) := do
  let t ← Host.tree
  match t.makeAll (Path.dir p) with
  | .error e => return .error e
  | .ok t =>
    match t.entry p with
    | .directory => return .error "unable to open database file: out of memory (14)"
    | .belowFile => return .error "unable to open database file: out of memory (14)"
    | .file content =>
      if content.isEmpty then
        Host.setTree ((companions p).foldl (fun t c => t.write c "") (t.write p databaseHeader))
        return .ok ()
      else if content.startsWith databaseHeader then
        Host.setTree ((companions p).foldl (fun t c => t.write c "") t)
        return .ok ()
      else return .error "file is not a database (26)"
    | .absent =>
      Host.setTree ((companions p).foldl (fun t c => t.write c "") (t.write p databaseHeader))
      return .ok ()

/-- Opens a database store if it is not open yet; `kind` is the message of a failure. -/
def connect (s : CacheStore) (kind : String) : HostM (Except Fault CacheStore) := do
  match s with
  | .file _ => return .ok s
  | .database _ true => return .ok s
  | .database p false =>
    match ← openDatabase p with
    | .ok () => return .ok (.database p true)
    | .error e => return .error (failure kind e p)

/-- Reads the stored cache text; none when there is none yet. -/
def read (s : CacheStore) : HostM (Except Fault (Option String) × CacheStore) := do
  let readFailed := Condition.text .cacheReadFailed
  match s with
  | .file p =>
    match (← Host.tree).read p with
    | .ok c => return (.ok (if c.isEmpty then none else some c), s)
    | .error .missing => return (.ok none, s)
    | .error e =>
      let op := if e == .isDirectory then "read" else "open"
      return (.error (failure readFailed (e.describe op p) p), s)
  | .database p _ =>
    match ← s.connect readFailed with
    | .error f => return (.error f, s)
    | .ok s =>
      match (← Host.tree).read p with
      | .ok c =>
        let payload := String.ofList (c.toList.drop databaseHeader.length)
        return (.ok (if payload.isEmpty then none else some payload), s)
      | .error _ => return (.ok none, s)

/-- Stores a cache text in place of the old one. -/
def write (s : CacheStore) (data : String) : HostM (Except Fault Unit × CacheStore) := do
  let createFailed := Condition.text .cacheCreateFailed
  match s with
  | .file p =>
    let dir := Path.dir p
    match (← Host.tree).makeAll dir with
    | .error e => return (.error (failure createFailed e dir), s)
    | .ok t =>
      match t.entry p with
      | .directory =>
        let reason := FileError.isDirectory.describe "rename" (p ++ ".tmp " ++ p)
        return (.error (failure (Condition.text .cacheWriteFailed) reason p), s)
      | _ =>
        Host.setTree (t.write p data)
        return (.ok (), s)
  | .database p _ =>
    match ← s.connect createFailed with
    | .error f => return (.error f, s)
    | .ok s =>
      Host.setTree ((← Host.tree).write p (databaseHeader ++ data))
      return (.ok (), s)

/-- Removes the stored cache; a missing one is already cleared. -/
def clear (s : CacheStore) : HostM (Except Fault Unit × CacheStore) := do
  match s with
  | .file p =>
    match (← Host.tree).removeEntry p with
    | .ok t =>
      Host.setTree t
      return (.ok (), s)
    | .error .missing => return (.ok (), s)
    | .error e =>
      return (.error (failure "failed to remove view cache" (e.describe "remove" p) p), s)
  | .database p _ =>
    match ← s.connect (Condition.text .cacheCreateFailed) with
    | .error f => return (.error f, s)
    | .ok s =>
      Host.setTree ((← Host.tree).write p databaseHeader)
      return (.ok (), s)

/-- Closes a database store, folding its companion files away. -/
def close (s : CacheStore) : HostM CacheStore := do
  match s with
  | .database p true =>
    let t ← Host.tree
    Host.setTree ((companions p).foldl (fun t c => (t.remove c).1) t)
    return .database p false
  | other => return other

end CacheStore

end Stencil
