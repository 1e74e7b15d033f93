import Mathlib.Data.List.Induction
import MarkdownTemplate.Log

/-!
# The handlers of the log

A configuration is meant to replace the handler of the one before. It does so if that one
succeeded; a configuration whose level is refused leaves its handler behind. This file counts the
handlers. It fixes

* `LogRequest`, `Log.performAll` -- what can be asked of the log, and the log after some requests;
* `Log.Counts` -- **the invariant**: every refusal has left a handler, and one more is in place if
  the last configuration succeeded;
* **`handlers_eq_refusals`** -- how many handlers there are after any requests, and when there is
  never more than one;
* `refused_level_stacks` -- one refused level is enough to have every record written twice.
-/

namespace MarkdownTemplate

/-- What can be asked of the log. -/
inductive LogRequest where
  | configure (level : Value)
  /-- Asks for the full name of a channel. -/
  | nameChannel (name : Text)
  | emit (record : Record)

namespace LogRequest

/-- The request is a configuration. -/
def isConfiguration : LogRequest → Bool
  | configure _ => true
  | _ => false

/-- The request is a configuration whose level is refused. A missing level stands for `default`. -/
def isRefused (default : Text) : LogRequest → Bool
  | configure level => ((Log.fresh.configure default level).2).isSome
  | _ => false

end LogRequest

namespace Log

variable {default : Text} {log : Log} {level : Value} {fault : LevelFault}

/-- The log after a request. Only a configuration changes it. -/
def perform (default : Text) (log : Log) : LogRequest → Log
  | .configure level => (log.configure default level).1
  | .nameChannel _ => log
  | .emit _ => log

/-- The log after some requests. -/
def performAll (default : Text) (log : Log) (requests : List LogRequest) : Log :=
  requests.foldl (perform default) log

/-! ## 1. Configurations -/

/-- **What a configuration does**: its level is taken and its handler replaces the one in place, or
    its level is refused, the level stays, and its handler is left behind. Which of both happens
    depends on the level alone. -/
theorem configure_cases (default : Text) (level : Value) :
    (∃ taken, ∀ log : Log,
      log.configure default level = ({ log with level := taken, installed := true }, none)) ∨
    ∃ fault, ∀ log : Log,
      log.configure default level =
        ({ log with strays := log.strays + 1, installed := false }, some fault) := by
  unfold configure
  cases levelOf (if level.isNull then .text default else level) with
  | ok taken => exact Or.inl ⟨taken, fun _ => rfl⟩
  | error fault => exact Or.inr ⟨fault, fun _ => rfl⟩

/-- **What a refused configuration does to any log**: the level stays, and there is one handler
    more, unless one was in place that it removes. -/
theorem configure_refused (h : (log.configure default level).2 = some fault) :
    (log.configure default level).1.level = log.level ∧
      (log.configure default level).1.handlers =
        log.handlers + if log.installed then 0 else 1 := by
  rcases configure_cases default level with ⟨taken, heq⟩ | ⟨fault', heq⟩
  · rw [heq log] at h
    cases h
  · rw [heq log]
    cases hin : log.installed <;> simp [handlers, hin]

/-! ## 2. Counting -/

/-- How many configurations were refused. -/
def refusals (default : Text) (requests : List LogRequest) : Nat :=
  requests.countP (LogRequest.isRefused default)

/-- The last configuration, if there was one, was not refused. -/
def endsWell (default : Text) (requests : List LogRequest) : Bool :=
  (requests.reverse.find? LogRequest.isConfiguration).any fun r => !r.isRefused default

section Concat

variable (default : Text) (requests : List LogRequest) {r : LogRequest}

theorem refusals_concat (r : LogRequest) : refusals default (requests ++ [r]) =
    refusals default requests + if r.isRefused default then 1 else 0 := by
  rw [refusals, List.countP_append, List.countP_singleton, ← refusals]

theorem endsWell_concat_of_pos (h : r.isConfiguration = true) :
    endsWell default (requests ++ [r]) = !r.isRefused default := by
  rw [endsWell, List.reverse_concat, List.find?_cons_of_pos h]
  rfl

theorem endsWell_concat_of_neg (h : r.isConfiguration = false) :
    endsWell default (requests ++ [r]) = endsWell default requests := by
  rw [endsWell, List.reverse_concat, List.find?_cons_of_neg (by simp [h]), ← endsWell]

end Concat

/-- **The invariant**: every refusal has left a handler behind, and a handler is in place if the
    last configuration was not refused. -/
structure Counts (default : Text) (requests : List LogRequest) (log : Log) : Prop where
  strays : log.strays = refusals default requests
  installed : log.installed = endsWell default requests

theorem counts_fresh (default : Text) : Counts default [] fresh where
  strays := rfl
  installed := rfl

/-- A request that is no configuration counts for nothing. -/
theorem Counts.ignored {requests : List LogRequest} {r : LogRequest}
    (h : Counts default requests log) (hr : r.isConfiguration = false)
    (hrefused : r.isRefused default = false) : Counts default (requests ++ [r]) log where
  strays := by
    rw [refusals_concat, hrefused]
    exact h.strays
  installed := by
    rw [endsWell_concat_of_neg default requests hr]
    exact h.installed

/-- **What one request does to the count.** -/
theorem Counts.perform {requests : List LogRequest} (h : Counts default requests log)
    (r : LogRequest) : Counts default (requests ++ [r]) (log.perform default r) := by
  cases r with
  | nameChannel name => exact h.ignored rfl rfl
  | emit record => exact h.ignored rfl rfl
  | configure level =>
      rcases configure_cases default level with ⟨taken, heq⟩ | ⟨fault, heq⟩
      · have hrefused : (LogRequest.configure level).isRefused default = false := by
          rw [LogRequest.isRefused, heq]
          rfl
        rw [Log.perform, heq]
        constructor
        · rw [refusals_concat, hrefused]
          exact h.strays
        · rw [endsWell_concat_of_pos default requests rfl, hrefused]
          rfl
      · have hrefused : (LogRequest.configure level).isRefused default = true := by
          rw [LogRequest.isRefused, heq]
          rfl
        rw [Log.perform, heq]
        constructor
        · rw [refusals_concat, hrefused, ← h.strays]
          rfl
        · rw [endsWell_concat_of_pos default requests rfl, hrefused]
          rfl

/-- The count after any requests to a log that nobody has configured. -/
theorem counts_performAll (default : Text) (requests : List LogRequest) :
    Counts default requests (fresh.performAll default requests) := by
  induction requests using List.reverseRecOn with
  | nil => exact counts_fresh default
  | append_singleton requests r ih =>
      rw [performAll, List.foldl_append]
      exact ih.perform r

theorem handlers_performAll (default : Text) (requests : List LogRequest) :
    (fresh.performAll default requests).handlers =
      refusals default requests + if endsWell default requests then 1 else 0 := by
  obtain ⟨hstrays, hinstalled⟩ := counts_performAll default requests
  rw [handlers, hstrays, hinstalled]

/-- **Right after a configuration**, refused or not, there is its handler and one for each refusal
    before it. -/
theorem handlers_concat_configure (default : Text) (requests : List LogRequest) (level : Value) :
    (fresh.performAll default (requests ++ [.configure level])).handlers =
      refusals default requests + 1 := by
  rw [handlers_performAll, refusals_concat, endsWell_concat_of_pos default requests rfl]
  cases (LogRequest.configure level).isRefused default <;> simp

/-- **There is at most one handler** exactly if no configuration comes after a refused one. -/
theorem handlers_le_one_iff (default : Text) (requests : List LogRequest) :
    (fresh.performAll default requests).handlers ≤ 1 ↔
      requests.Pairwise fun r r' => r.isRefused default = true → r'.isConfiguration = false := by
  induction requests using List.reverseRecOn with
  | nil => simp [handlers_performAll, refusals, endsWell]
  | append_singleton requests r ih =>
      rw [List.pairwise_append]
      cases hr : r.isConfiguration with
      | false =>
          have hrefused : r.isRefused default = false := by
            cases r with
            | configure level => cases hr
            | nameChannel name => rfl
            | emit record => rfl
          rw [handlers_performAll, refusals_concat, endsWell_concat_of_neg default requests hr,
            hrefused, ← ih, handlers_performAll]
          simp [hr]
      | true =>
          obtain ⟨level, rfl⟩ : ∃ level, r = .configure level := by
            cases r with
            | configure level => exact ⟨level, rfl⟩
            | nameChannel name => cases hr
            | emit record => cases hr
          -- what is refused before the last configuration is refused too early
          have hzero : refusals default requests + 1 ≤ 1 ↔
              ∀ a ∈ requests, a.isRefused default = false := by
            have hle : refusals default requests + 1 ≤ 1 ↔ refusals default requests = 0 := by
              omega
            rw [hle, refusals, List.countP_eq_zero]
            simp
          rw [handlers_concat_configure, hzero]
          constructor
          · intro hnone
            have hearlier : requests.Pairwise fun r r' =>
                r.isRefused default = true → r'.isConfiguration = false :=
              List.pairwise_of_forall_mem_list fun a ha _ _ hrefused => by
                rw [hnone a ha] at hrefused
                cases hrefused
            refine ⟨hearlier, List.pairwise_singleton _ _, fun a ha _ _ hrefused => ?_⟩
            rw [hnone a ha] at hrefused
            cases hrefused
          · intro ⟨_, _, hlast⟩ a ha
            have h := hlast a ha _ (List.mem_singleton_self _)
            simpa [hr] using h

/-! ## 3. What is written -/

/-- **How often a record is written**: not at all, once as a bare message if there is no handler, or
    once by every handler. -/
theorem emit_cases (log : Log) (r : Record) :
    log.emit r = [] ∨ log.handlers = 0 ∧ log.emit r = r.message ++ ['\n'] ∨
      log.emit r = (List.replicate log.handlers r.text).flatten := by
  unfold emit
  split
  · split
    · rename_i hnone
      split
      · exact Or.inr (Or.inl ⟨hnone, rfl⟩)
      · exact Or.inl rfl
    · exact Or.inr (Or.inr rfl)
  · exact Or.inl rfl

/-- **With at most one handler a record is written at most once.** -/
theorem emit_of_handlers_le_one (h : log.handlers ≤ 1) (r : Record) :
    log.emit r = [] ∨ log.emit r = r.message ++ ['\n'] ∨ log.emit r = r.text := by
  rcases emit_cases log r with hnothing | ⟨-, hbare⟩ | hlines
  · exact Or.inl hnothing
  · exact Or.inr (Or.inl hbare)
  · obtain hnone | hone : log.handlers = 0 ∨ log.handlers = 1 := by omega
    · exact Or.inl (by rw [hlines, hnone]; rfl)
    · exact Or.inr (Or.inr (by rw [hlines, hone]; simp))

/-- **How many handlers there are.** Let requests be made to a log that nobody has configured.
    * There is one handler for each configuration that was refused, and one more if the last
      configuration was not.
    * There is at most one at every point exactly if no configuration comes after a refused one.
    * As long as there is at most one, every record is written at most once.
    * A configuration that is refused leaves the level as it was, and the number of handlers, too,
      if a handler was in place that it could replace; if none was, there is one more. -/
theorem handlers_eq_refusals (default : Text) (requests : List LogRequest) :
    let log := fresh.performAll default requests
    (log.handlers =
      refusals default requests + if endsWell default requests then 1 else 0) ∧
    ((∀ earlier, earlier <+: requests → (fresh.performAll default earlier).handlers ≤ 1) ↔
      requests.Pairwise fun r r' => r.isRefused default = true → r'.isConfiguration = false) ∧
    (log.handlers ≤ 1 → ∀ r : Record,
      log.emit r = [] ∨ log.emit r = r.message ++ ['\n'] ∨ log.emit r = r.text) ∧
    ∀ level fault, (log.configure default level).2 = some fault →
      (log.configure default level).1.level = log.level ∧
        (log.configure default level).1.handlers =
          log.handlers + if endsWell default requests then 0 else 1 := by
  intro log
  refine ⟨handlers_performAll default requests, ⟨fun h => ?_, fun h earlier hearlier => ?_⟩,
    emit_of_handlers_le_one, fun level fault hrefused => ?_⟩
  · exact (handlers_le_one_iff default requests).mp (h requests (List.prefix_refl _))
  · exact (handlers_le_one_iff default earlier).mpr (h.sublist hearlier.sublist)
  · have h := configure_refused hrefused
    rwa [show log.installed = endsWell default requests from
      (counts_performAll default requests).installed] at h

/-- A handler is replaced, and then a level is refused: one handler is there all the time. -/
theorem handlers_eq_refusals_replaced :
    let requests : List LogRequest := [.configure (.text "DEBUG".toList), .configure (.int 20),
      .nameChannel "tools".toList, .configure (.text "bogus".toList)]
    (requests.Pairwise fun r r' =>
      r.isRefused "WARNING".toList = true → r'.isConfiguration = false) ∧
    (∀ earlier, earlier <+: requests →
      (fresh.performAll "WARNING".toList earlier).handlers ≤ 1) ∧
    (fresh.performAll "WARNING".toList requests).handlers = 1 ∧
    (fresh.performAll "WARNING".toList requests).emit ⟨info, rootName, "m".toList⟩ =
      "INFO mdassembler: m\n".toList := by
  intro requests
  have hpairs : requests.Pairwise fun r r' =>
      r.isRefused "WARNING".toList = true → r'.isConfiguration = false := by decide +kernel
  obtain ⟨-, hiff, -, -⟩ := handlers_eq_refusals "WARNING".toList requests
  exact ⟨hpairs, hiff.mpr hpairs, by decide +kernel, by decide +kernel⟩

/-- **A level that is refused leaves a handler behind**: the next configuration does not replace it,
    and every record is written twice. -/
theorem refused_level_stacks :
    let bogus : Value := .text "bogus".toList
    let requests : List LogRequest := [.configure bogus, .configure (.text "INFO".toList)]
    let log := fresh.performAll "WARNING".toList requests
    let r : Record := ⟨info, rootName, "m".toList⟩
    (fresh.configure "WARNING".toList bogus).2.isSome = true ∧
    (fresh.configure "WARNING".toList bogus).1.handlers ≠ fresh.handlers ∧
    log.handlers = 2 ∧ log.emit r = r.text ++ r.text ∧
    ¬ ∀ (default : Text) (requests : List LogRequest),
      (fresh.performAll default requests).handlers ≤ 1 := by
  intro bogus requests log r
  have htwo : log.handlers = 2 := by decide +kernel
  refine ⟨by decide +kernel, by decide +kernel, htwo, by decide +kernel, fun h => ?_⟩
  have hle : log.handlers ≤ 1 := h "WARNING".toList requests
  omega

end Log

end MarkdownTemplate
