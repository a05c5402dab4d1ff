import Mathlib.Data.List.Forall2
import TapeMeasure.Proofs.Double.Finite
import TapeMeasure.Proofs.Limiter.Window

/-!
# The limiter as an ideal window

A limiter that forgets what no longer counts decides as one that remembers every request, while
there is room for all keys and the clock does not go back.  The answer carries the time at which
the oldest counted request leaves the window; without such a time there is no answer, but the
request has been decided all the same.

* `oldestTimes`: for each request, the time from which that point is counted.
* `Agrees`: an answer carries a verdict and that time.
* `forall₂_agrees_run`: every answer of a run agrees with the ideal verdict.
* `Bounded.answered_ideal`, `Bounded.of_weaker`: the limit holds at every point of a run.
* `answersFor_run`: the answers for a key are those of its own requests alone.
-/

namespace TapeMeasure

namespace Limiter

variable {config : Config} {entries entries' : Entries} {keys : List String} {key : String}
  {now : Double} {earlier : List Answered} {requests : List (Double × String)}

/-! ## Answers and verdicts -/

/-- For each request, when the oldest request that counts was made; it may be the request itself. -/
def oldestTimes (limit : Int) (window : Double) :
    List Answered → List (Double × String) → List Double
  | _, [] => []
  | earlier, (now, key) :: requests =>
    let allowed := decide ((liveCount window now key earlier : Int) < limit)
    (countedTimes window now key earlier).headD now ::
      oldestTimes limit window (⟨now, key, allowed⟩ :: earlier) requests

/-- The answer has the verdict and the number of remaining requests, and tells when the request of
the given time leaves the window; without such a time there is no answer. -/
def Agrees (config : Config) (answer : Except Fault Decision) (ideal : (Bool × Int) × Double) :
    Prop :=
  ∃ retry, answer = (resetAt config ideal.2).map fun reset =>
    ⟨ideal.1.1, config.maxRequests, ideal.1.2, reset, retry⟩

/-- With a positive limit, the answer follows from the number of the times and the oldest one. -/
theorem agrees_verdict (hlimit : 1 ≤ config.maxRequests) (now : Double) (recent : List Double) :
    Agrees config (verdict config now recent)
      ((decide ((recent.length : Int) < config.maxRequests),
        if decide ((recent.length : Int) < config.maxRequests) then
          config.maxRequests - 1 - recent.length else 0),
        recent.headD now) := by
  rw [verdict]
  by_cases hdenied : config.maxRequests ≤ recent.length
  · rw [if_pos hdenied, decide_eq_false (not_lt.mpr hdenied), if_neg Bool.false_ne_true]
    cases recent with
    | nil =>
      rw [List.length_nil] at hdenied
      omega
    | cons oldest recent => exact ⟨_, rfl⟩
  · have hremaining : config.maxRequests - ((recent ++ [now]).length : Int) =
        config.maxRequests - 1 - recent.length := by
      rw [List.length_append, List.length_singleton]
      omega
    rw [if_neg hdenied, decide_eq_true (not_le.mp hdenied), if_pos rfl, ← hremaining]
    cases recent with
    | nil => exact ⟨_, rfl⟩
    | cons oldest recent => exact ⟨_, rfl⟩

/-- While the entries and the history have the same requests that count, the run goes on as the
ideal one. -/
theorem forall₂_agrees_run (hlimit : 1 ≤ config.maxRequests)
    (hroom : (keys.dedup.length : Int) ≤ config.maxKeys) (hordered : Ordered requests)
    (hkeys : ∀ request ∈ requests, request.2 ∈ keys)
    (htracks : Tracks config keys (requests.map Prod.fst) earlier entries) :
    List.Forall₂ (Agrees config) (run config entries requests).1
      ((ideal config.maxRequests config.window earlier requests).zip
        (oldestTimes config.maxRequests config.window earlier requests)) := by
  induction requests generalizing earlier entries with
  | nil => exact List.Forall₂.nil
  | cons request requests ih =>
    obtain ⟨now, key⟩ := request
    rw [Ordered, List.pairwise_cons] at hordered
    have hkey := hkeys _ List.mem_cons_self
    refine List.Forall₂.cons ?_ (ih hordered.2
      (fun request hmem => hkeys request (List.mem_cons_of_mem _ hmem))
      (htracks.check hkey hroom fun time htime => ?_))
    · show Agrees config (check config entries now key).1 _
      rw [check_fst, htracks.live key now List.mem_cons_self, ← length_countedTimes]
      exact agrees_verdict hlimit now _
    · obtain ⟨request, hmem, rfl⟩ := List.mem_map.mp htime
      exact hordered.1 request hmem

/-! ## Answers to all requests -/

theorem length_ideal (limit : Int) (window : Double) (earlier : List Answered)
    (requests : List (Double × String)) :
    (ideal limit window earlier requests).length = requests.length := by
  induction requests generalizing earlier with
  | nil => rfl
  | cons request requests ih => rw [ideal, List.length_cons, List.length_cons, ih]

theorem length_oldestTimes (limit : Int) (window : Double) (earlier : List Answered)
    (requests : List (Double × String)) :
    (oldestTimes limit window earlier requests).length = requests.length := by
  induction requests generalizing earlier with
  | nil => rfl
  | cons request requests ih => rw [oldestTimes, List.length_cons, List.length_cons, ih]

/-- A counted request is one of the history. -/
theorem exists_of_mem_countedTimes {window time : Double}
    (h : time ∈ countedTimes window now key earlier) :
    ∃ request ∈ earlier, request.time = time := by
  have hallowed := List.mem_of_mem_filter h
  rw [allowedTimes, List.mem_reverse, List.mem_map] at hallowed
  obtain ⟨request, hmem, htime⟩ := hallowed
  exact ⟨request, List.mem_of_mem_filter hmem, htime⟩

/-- The oldest request that counts is one of the run or of the history. -/
theorem exists_of_mem_oldestTimes {limit : Int} {window time : Double}
    (h : time ∈ oldestTimes limit window earlier requests) :
    (∃ request ∈ requests, request.1 = time) ∨ ∃ request ∈ earlier, request.time = time := by
  induction requests generalizing earlier with
  | nil => cases h
  | cons request requests ih =>
    obtain ⟨now, key⟩ := request
    rw [oldestTimes, List.mem_cons] at h
    rcases h with rfl | h
    · cases hcounted : countedTimes window now key earlier with
      | nil => exact Or.inl ⟨_, List.mem_cons_self, rfl⟩
      | cons oldest counted =>
        have hmem : oldest ∈ countedTimes window now key earlier :=
          hcounted ▸ List.mem_cons_self
        exact Or.inr (exists_of_mem_countedTimes hmem)
    · rcases ih h with ⟨request, hmem, heq⟩ | ⟨request, hmem, heq⟩
      · exact Or.inl ⟨request, List.mem_cons_of_mem _ hmem, heq⟩
      · rcases List.mem_cons.mp hmem with rfl | hmem
        · exact Or.inl ⟨_, List.mem_cons_self, heq⟩
        · exact Or.inr ⟨request, hmem, heq⟩

/-- There is an answer if the given time leaves the window at some time. -/
theorem Agrees.exists_decision {answer : Except Fault Decision} {ideal : (Bool × Int) × Double}
    (h : Agrees config answer ideal) (hfinite : (ideal.2.add config.window).isFinite = true) :
    ∃ decision, answer = .ok decision ∧ (decision.allowed, decision.remaining) = ideal.1 := by
  obtain ⟨retry, rfl⟩ := h
  obtain ⟨reset, hreset⟩ := Double.exists_truncate_iff.mpr hfinite
  rw [resetAt, hreset]
  exact ⟨_, rfl, rfl⟩

/-- An answer with a decision says what it is to say. -/
def Decides (answer : Except Fault Decision) (ideal : Bool × Int) : Prop :=
  ∃ decision, answer = .ok decision ∧ (decision.allowed, decision.remaining) = ideal

/-- If every request leaves the window at some time, all of them are answered. -/
theorem forall₂_decides {answers : List (Except Fault Decision)} {ideals : List (Bool × Int)}
    {times : List Double} (hlength : ideals.length = times.length)
    (h : List.Forall₂ (Agrees config) answers (ideals.zip times))
    (hfinite : ∀ time ∈ times, (time.add config.window).isFinite = true) :
    List.Forall₂ Decides answers ideals := by
  have hmem : ∀ pair ∈ ideals.zip times, (pair.2.add config.window).isFinite = true :=
    fun pair hpair => hfinite pair.2 (List.of_mem_zip hpair).2
  have hboth := (List.forall₂_and_left _ _).mpr ⟨hmem, h.flip⟩
  rw [← List.map_fst_zip hlength.le, List.forall₂_map_right_iff]
  exact (hboth.imp fun _ _ hpair => Agrees.exists_decision hpair.2 hpair.1).flip

/-! ## The limit at every point -/

/-- The requests with what a list of verdicts says of them. -/
def answered (requests : List (Double × String)) (allowed : List Bool) : List Answered :=
  List.zipWith (fun request allowed => ⟨request.1, request.2, allowed⟩) requests allowed

/-- Whether an answer allows the request; where there is none, it does not. -/
def isAllowed (answer : Except Fault Decision) : Bool :=
  match answer with
  | .ok decision => decision.allowed
  | .error _ => false

/-- Up to every point of the ideal run, no key has more requests that count than the limit. -/
theorem Bounded.answered_ideal {limit : Int} {window : Double}
    (h : Bounded limit window earlier) {done : List Answered}
    (hdone : done <+: answered requests ((ideal limit window earlier requests).map Prod.fst)) :
    Bounded limit window (done ++ earlier) := by
  induction requests generalizing earlier done with
  | nil =>
    rw [answered, List.zipWith_nil_left, List.prefix_nil] at hdone
    rwa [hdone]
  | cons request requests ih =>
    obtain ⟨now, key⟩ := request
    rw [ideal, List.map_cons, answered, List.zipWith_cons_cons, List.prefix_cons_iff] at hdone
    rcases hdone with rfl | ⟨rest, rfl, hrest⟩
    · exact h
    · exact (ih (h.cons fun hallowed => of_decide_eq_true hallowed) hrest).perm List.perm_middle

/-- An answer allows a request only if the verdict does. -/
theorem Agrees.of_isAllowed {answer : Except Fault Decision} {ideal : (Bool × Int) × Double}
    (h : Agrees config answer ideal) (hallowed : isAllowed answer = true) :
    ideal.1.1 = true := by
  obtain ⟨retry, rfl⟩ := h
  cases hreset : resetAt config ideal.2 with
  | error fault =>
    rw [hreset] at hallowed
    exact absurd hallowed Bool.false_ne_true
  | ok reset =>
    rw [hreset] at hallowed
    exact hallowed

/-- A request that was allowed in one history was allowed in the other. -/
def Weaker (request other : Answered) : Prop :=
  request.time = other.time ∧ request.key = other.key ∧
    (request.allowed = true → other.allowed = true)

theorem forall₂_weaker_answered {allowed allowed' : List Bool}
    (h : List.Forall₂ (fun a b => a = true → b = true) allowed allowed')
    (requests : List (Double × String)) :
    List.Forall₂ Weaker (answered requests allowed) (answered requests allowed') := by
  induction h generalizing requests with
  | nil => cases requests <;> exact List.Forall₂.nil
  | cons hallowed _ ih =>
    cases requests with
    | nil => exact List.Forall₂.nil
    | cons request requests => exact List.Forall₂.cons ⟨rfl, rfl, hallowed⟩ (ih requests)

/-- What is allowed in answers is allowed in the verdicts. -/
theorem forall₂_isAllowed {answers : List (Except Fault Decision)} {ideals : List (Bool × Int)}
    {times : List Double} (hlength : ideals.length = times.length)
    (h : List.Forall₂ (Agrees config) answers (ideals.zip times)) :
    List.Forall₂ (fun a b => a = true → b = true) (answers.map isAllowed)
      (ideals.map Prod.fst) := by
  rw [← List.map_fst_zip hlength.le, List.map_map, List.forall₂_map_left_iff,
    List.forall₂_map_right_iff]
  exact h.imp fun _ _ hagrees => hagrees.of_isAllowed

/-- A history with fewer allowed requests keeps the limit as well. -/
theorem Bounded.of_weaker {limit : Int} {window : Double} {weaker : List Answered}
    (h : Bounded limit window earlier) (hweaker : List.Forall₂ Weaker weaker earlier) :
    Bounded limit window weaker := by
  intro now key hnow
  have hcount : liveCount window now key weaker ≤ liveCount window now key earlier ∧
      ∀ request ∈ earlier, Double.le request.time now = true := by
    clear h
    induction hweaker with
    | nil => exact ⟨le_rfl, hnow⟩
    | @cons request other weaker earlier hone _ ih =>
      obtain ⟨htime, hkey, hallowed⟩ := hone
      obtain ⟨ihcount, ihtime⟩ := ih fun request hmem => hnow request (List.mem_cons_of_mem _ hmem)
      refine ⟨?_, List.forall_mem_cons.mpr ⟨htime ▸ hnow request List.mem_cons_self, ihtime⟩⟩
      rw [liveCount, liveCount, List.countP_cons, List.countP_cons, htime, hkey]
      refine Nat.add_le_add ihcount ?_
      cases hrequest : request.allowed with
      | false => exact Nat.zero_le _
      | true => rw [hallowed hrequest]
  exact Int.le_trans (Int.ofNat_le.mpr hcount.1) (h now key hcount.2)

/-! ## Answers for one key -/

/-- The answers to the requests of a key. -/
def answersFor (key : String) (requests : List (Double × String))
    (answers : List (Except Fault Decision)) : List (Except Fault Decision) :=
  ((requests.zip answers).filter fun pair => pair.1.2 == key).map Prod.snd

theorem answersFor_cons (key : String) (request : Double × String)
    (requests : List (Double × String)) (answer : Except Fault Decision)
    (answers : List (Except Fault Decision)) :
    answersFor key (request :: requests) (answer :: answers) =
      if request.2 = key then answer :: answersFor key requests answers
      else answersFor key requests answers := by
  rw [answersFor, List.zip_cons_cons, List.filter_cons]
  by_cases heq : request.2 = key <;> simp [answersFor, heq]

/-- The answers for a key are those of a run with its own requests, from entries with the same
times for it. -/
theorem answersFor_run (hroom : (keys.dedup.length : Int) ≤ config.maxKeys)
    (hkeys : ∀ request ∈ requests, request.2 ∈ keys) (h : Within keys entries)
    (h' : Within keys entries') (hsame : times entries key = times entries' key) :
    answersFor key requests (run config entries requests).1 =
      (run config entries' (requests.filter fun request => request.2 == key)).1 := by
  induction requests generalizing entries entries' with
  | nil => rfl
  | cons request requests ih =>
    obtain ⟨now, other⟩ := request
    have hother := hkeys _ List.mem_cons_self
    have hrest := fun request hmem => hkeys request (List.mem_cons_of_mem _ hmem)
    have hwithin := h.check hother hroom now
    have hafter := times_check h hother hroom now key
    simp only [run]
    rw [answersFor_cons]
    by_cases heq : other = key
    · subst heq
      have hrecent : recentTimes config entries now other =
          recentTimes config entries' now other := by
        rw [recentTimes, recentTimes, hsame]
      have hafter' := times_check h' hother hroom now other
      rw [if_pos rfl, hrecent] at hafter
      rw [if_pos rfl] at hafter'
      rw [if_pos rfl, List.filter_cons_of_pos (by simp),
        ih hrest hwithin (h'.check hother hroom now) (hafter.trans hafter'.symm), check_fst,
        hrecent, ← check_fst]
      rfl
    · rw [if_neg heq] at hafter
      rw [if_neg heq, List.filter_cons_of_neg (by simpa using heq)]
      exact ih hrest hwithin h' (hafter.trans hsame)

/-! ## Runs from no entries -/

/-- The limiter is an ideal window.  Its answers have the ideal verdicts, and all requests are
answered if each leaves the window at some time; no key ever has more allowed requests that count
than the limit; and the answers for a key do not depend on other keys. -/
theorem run_ideal (hlimit : 1 ≤ config.maxRequests) (hordered : Ordered requests)
    (hroom : ((requests.map Prod.snd).dedup.length : Int) ≤ config.maxKeys) :
    List.Forall₂ (Agrees config) (run config [] requests).1
        ((ideal config.maxRequests config.window [] requests).zip
          (oldestTimes config.maxRequests config.window [] requests)) ∧
      ((∀ request ∈ requests, (request.1.add config.window).isFinite = true) →
        List.Forall₂ Decides (run config [] requests).1
          (ideal config.maxRequests config.window [] requests)) ∧
      (∀ done, done <+: answered requests ((run config [] requests).1.map isAllowed) →
        Bounded config.maxRequests config.window done) ∧
      ∀ key, answersFor key requests (run config [] requests).1 =
        (run config [] (requests.filter fun request => request.2 == key)).1 := by
  have hkeys : ∀ request ∈ requests, request.2 ∈ requests.map Prod.snd := fun _ hmem =>
    List.mem_map_of_mem hmem
  have hagrees := forall₂_agrees_run hlimit hroom hordered hkeys (tracks_nil config _ _)
  have hlength : (ideal config.maxRequests config.window [] requests).length =
      (oldestTimes config.maxRequests config.window [] requests).length :=
    (length_ideal _ _ _ _).trans (length_oldestTimes _ _ _ _).symm
  refine ⟨hagrees, fun hfinite => ?_, fun done hdone => ?_, fun key => ?_⟩
  · refine forall₂_decides hlength hagrees fun time htime => ?_
    rcases exists_of_mem_oldestTimes htime with ⟨request, hmem, rfl⟩ | ⟨request, hmem, _⟩
    · exact hfinite request hmem
    · cases hmem
  · have hweaker := List.forall₂_take done.length
      (forall₂_weaker_answered (forall₂_isAllowed hlength hagrees) requests)
    rw [← List.prefix_iff_eq_take.mp hdone] at hweaker
    have hideal := Bounded.answered_ideal (bounded_nil hlimit config.window)
      (List.take_prefix done.length (answered requests
        ((ideal config.maxRequests config.window [] requests).map Prod.fst)))
    rw [List.append_nil] at hideal
    exact hideal.of_weaker hweaker
  · exact answersFor_run hroom hkeys (within_nil _) (within_nil _) rfl

/-- Two clients, a limit of two and a window of one minute. -/
theorem run_ideal_twoClients :
    List.Forall₂ Decides
      (run ⟨2, .ofInt 60, 2⟩ [] [(.ofInt 0, "a"), (.ofInt 1, "b"), (.ofInt 1, "a"), (.ofInt 2, "a"),
        (.ofInt 61, "a")]).1
      [(true, 1), (true, 1), (true, 0), (false, 0), (true, 1)] := by
  have hideal : ideal 2 (.ofInt 60) [] [(.ofInt 0, "a"), (.ofInt 1, "b"), (.ofInt 1, "a"),
      (.ofInt 2, "a"), (.ofInt 61, "a")] =
        [(true, 1), (true, 1), (true, 0), (false, 0), (true, 1)] := by decide +kernel
  have hrun := (@run_ideal ⟨2, .ofInt 60, 2⟩ [(.ofInt 0, "a"), (.ofInt 1, "b"), (.ofInt 1, "a"),
    (.ofInt 2, "a"), (.ofInt 61, "a")] (by decide) (by unfold Ordered; decide +kernel)
    (by decide)).2.1 (by decide +kernel)
  simpa only [hideal] using hrun

/-- No request leaves an infinite window, so there is no answer to one that is to be allowed. -/
theorem not_decides_infiniteWindow :
    Ordered [(Double.ofInt 1000, "a")] ∧
      ([(Double.ofInt 1000, "a")].map Prod.snd).dedup.length = 1 ∧
      ideal 2 (.infinite false) [] [(.ofInt 1000, "a")] = [(true, 1)] ∧
      ¬ List.Forall₂ Decides (run ⟨2, .infinite false, 10000⟩ [] [(.ofInt 1000, "a")]).1
        [(true, 1)] := by
  have hrun : (run ⟨2, .infinite false, 10000⟩ [] [(.ofInt 1000, "a")]).1 =
      [.error (.noReset .infinite)] := by decide +kernel
  refine ⟨by unfold Ordered; decide +kernel, by decide, by decide +kernel, ?_⟩
  rw [hrun]
  rintro (_ | ⟨⟨decision, hdecision, _⟩, _⟩)
  cases hdecision

end Limiter

end TapeMeasure
