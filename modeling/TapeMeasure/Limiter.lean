import TapeMeasure.Double

/-!
# The rate limiter

For each key, such as the address of a client, the limiter keeps the times of the requests that it
allowed and that may still count.  A request is allowed while fewer than `maxRequests` of them lie
inside the window.

The keys are kept in the order in which their last requests were allowed.  When there are more than
`maxKeys` of them, those whose requests have all left the window are dropped from the front, and
then the oldest ones until the number is right.

* `Limiter.check`: the decision about one request, with the limiter after it.
* `Limiter.evict`: the dropping of keys.
* `Limiter.run`: a sequence of checks.
-/

namespace TapeMeasure

namespace Limiter

/-- The limits. The window is in seconds. -/
structure Config where
  maxRequests : Int
  window : Double
  maxKeys : Int
  deriving DecidableEq, Repr

/-- The answer to a request. -/
structure Decision where
  allowed : Bool
  limit : Int
  remaining : Int
  /-- When the oldest counted request leaves the window, in whole seconds. -/
  resetAt : Int
  /-- How long to wait, in seconds; zero for an allowed request. -/
  retryAfter : Double
  deriving DecidableEq, Repr

/-- The reasons for which a request gets no answer. -/
inductive Fault where
  /-- A request is denied although no request counts, since the limit is not positive. -/
  | noTimes
  /-- The time at which the oldest request leaves the window is not finite. -/
  | noReset (fault : Double.TruncationFault)
  deriving DecidableEq, Repr

/-- The allowed requests that are remembered, oldest first, for each key. -/
abbrev Entries :=
  List (String × List Double)

/-- Whether a request made at a time still counts. -/
def isLive (window now time : Double) : Bool :=
  Double.lt (now.sub time) window

/-- The remembered times of a key. -/
def times (entries : Entries) (key : String) : List Double :=
  ((entries.find? fun entry => entry.1 == key).map Prod.snd).getD []

/-- The entries with other times for a key, which keeps its place or comes last. -/
def put (key : String) (recent : List Double) : Entries → Entries
  | [] => [(key, recent)]
  | entry :: entries =>
    if entry.1 = key then (key, recent) :: entries else entry :: put key recent entries

/-- A key that was put has the times that were put. -/
@[simp] theorem times_put_self (key : String) (recent : List Double) (entries : Entries) :
    times (put key recent entries) key = recent := by
  induction entries with
  | nil => simp [put, times]
  | cons entry entries ih =>
    simp only [put]
    split
    · simp [times]
    · rename_i ne
      simpa [times, ne] using ih

/-- Other keys keep their times. -/
theorem times_put_of_ne {key other : String} (ne : other ≠ key) (recent : List Double)
    (entries : Entries) : times (put key recent entries) other = times entries other := by
  induction entries with
  | nil => simp [put, times, ne.symm]
  | cons entry entries ih =>
    simp only [put]
    split
    · rename_i same
      simp [times, same, ne.symm]
    · by_cases found : entry.1 = other
      · simp [times, found]
      · simpa [times, found] using ih

/-- The entries without a key. -/
def remove (key : String) (entries : Entries) : Entries :=
  entries.filter fun entry => entry.1 != key

/-- A removed key has no entry. -/
theorem notMem_keys_remove (key : String) (entries : Entries) :
    key ∉ (remove key entries).map Prod.fst := by
  simp [remove]

/-- Whether all remembered requests of an entry have left the window. -/
def isExpired (window now : Double) (recent : List Double) : Bool :=
  match recent.getLast? with
  | none => true
  | some last => Double.le window (now.sub last)

/-- Drops entries from the front: expired ones, and others while there are too many. -/
def evictFront (config : Config) (now : Double) : Entries → Entries
  | [] => []
  | entry :: entries =>
    if isExpired config.window now entry.2 = false ∧
        ((entry :: entries).length : Int) ≤ config.maxKeys then
      entry :: entries
    else evictFront config now entries

/-- What is left is an end of the entries. -/
theorem evictFront_suffix (config : Config) (now : Double) (entries : Entries) :
    evictFront config now entries <:+ entries := by
  induction entries with
  | nil => exact List.suffix_refl _
  | cons entry entries ih =>
    simp only [evictFront]
    split
    · exact List.suffix_refl _
    · exact ih.trans (List.suffix_cons _ _)

/-- Not too many entries are left, if any. -/
theorem length_evictFront_le (config : Config) (now : Double) (entries : Entries) :
    ((evictFront config now entries).length : Int) ≤ max config.maxKeys 0 := by
  induction entries with
  | nil => simp only [evictFront, List.length_nil]; omega
  | cons entry entries ih =>
    simp only [evictFront]
    split
    · rename_i fits
      omega
    · exact ih

/-- Drops entries if there are too many. -/
def evict (config : Config) (now : Double) (entries : Entries) : Entries :=
  if (entries.length : Int) ≤ config.maxKeys then entries else evictFront config now entries

/-- When the oldest of some requests leaves the window. -/
def resetAt (config : Config) (oldest : Double) : Except Fault Int :=
  match (oldest.add config.window).truncate with
  | .ok seconds => .ok seconds
  | .error fault => .error (.noReset fault)

/-- How long the oldest of some requests stays in the window. -/
def retryAfter (config : Config) (now oldest : Double) : Double :=
  ((oldest.add config.window).sub now).positivePart

/-- The answer to a denied request. -/
def deny (config : Config) (now : Double) (recent : List Double) : Except Fault Decision :=
  match recent with
  | [] => .error .noTimes
  | oldest :: _ =>
    (resetAt config oldest).map fun reset =>
      ⟨false, config.maxRequests, 0, reset, retryAfter config now oldest⟩

/-- The answer to an allowed request, which is the last of the given ones. -/
def allow (config : Config) (recent : List Double) : Except Fault Decision :=
  match recent with
  | [] => .error .noTimes
  | oldest :: _ =>
    (resetAt config oldest).map fun reset =>
      ⟨true, config.maxRequests, config.maxRequests - recent.length, reset, .zero⟩

/-- The requests of a key that count at a time. -/
def recentTimes (config : Config) (entries : Entries) (now : Double) (key : String) :
    List Double :=
  (times entries key).filter (isLive config.window now)

/-- Decides about a request, and remembers it if it is allowed. -/
def check (config : Config) (entries : Entries) (now : Double) (key : String) :
    Except Fault Decision × Entries :=
  let recent := recentTimes config entries now key
  if config.maxRequests ≤ recent.length then
    (deny config now recent, put key recent entries)
  else
    let recent := recent ++ [now]
    (allow config recent, evict config now (remove key entries ++ [(key, recent)]))

/-- Decides about requests in order. -/
def run (config : Config) : Entries → List (Double × String) →
    List (Except Fault Decision) × Entries
  | entries, [] => ([], entries)
  | entries, (now, key) :: requests =>
    let (decision, entries) := check config entries now key
    let (decisions, entries) := run config entries requests
    (decision :: decisions, entries)

end Limiter

end TapeMeasure
