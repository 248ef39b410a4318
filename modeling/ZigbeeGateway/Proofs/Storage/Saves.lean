import Mathlib.Data.List.DropRight
import Mathlib.Data.List.Nodup
import ZigbeeGateway.Proofs.Runs
import ZigbeeGateway.Storage

/-!
# Pending saves

A save of a table is asked for within a delay, and it is completed with all others that are due.  Requests
for one table are merged, so that a table has one deadline at most.  The log of a run of requests and
completions says which deadline that is: the earliest one that was asked for since the table was
completed last (`SaveRun.Accounts`).

Hence no request is lost by merging, and none waits longer than until the first completion at its own
deadline or later (`SaveRun.saves_account`).
-/

namespace ZigbeeGateway

theorem Deadlines.get_set (d : Deadlines) (table : SaveTable) (deadline : Option Nat)
    (table' : SaveTable) :
    (d.set table deadline).get table' = if table' = table then deadline else d.get table' := by
  cases table <;> cases table' <;> rfl

/-- Deadlines after those of some tables were cleared. -/
theorem Deadlines.get_foldl_set_none (d : Deadlines) (tables : List SaveTable) (table : SaveTable) :
    (tables.foldl (fun d table => d.set table none) d).get table =
      if table ∈ tables then none else d.get table := by
  induction tables generalizing d with
  | nil => simp
  | cons first tables ih =>
    rw [List.foldl_cons, ih, get_set]
    by_cases hrest : table ∈ tables <;> by_cases hfirst : table = first <;> simp [hrest, hfirst]

/-! ### Requests and completions -/

namespace Storage

variable {s : Storage} {now : Nat} {table : SaveTable}

theorem get_scheduleSave (s : Storage) (now : Nat) (table : SaveTable) (delay : Nat)
    (table' : SaveTable) :
    (s.scheduleSave now table delay).pending.get table' =
      if table' = table then some (((s.pending.get table).map (min · (now + delay))).getD (now + delay))
      else s.pending.get table' :=
  Deadlines.get_set s.pending table _ table'

theorem mem_dueTables :
    table ∈ s.dueTables now ↔ ∃ deadline, s.pending.get table = some deadline ∧ deadline ≤ now := by
  have hall : table ∈ ResourceKind.all := by cases table <;> decide
  simp [dueTables, hall, Option.any_eq_true]

/-- No table is due twice. -/
theorem nodup_dueTables : (s.dueTables now).Nodup := by
  have hall : ResourceKind.all.Nodup := by decide
  exact hall.filter _

/-- What is due is pending no longer, and what is not stays pending. -/
theorem get_takeDue (s : Storage) (now : Nat) (table : SaveTable) :
    (s.takeDue now).1.pending.get table =
      if table ∈ (s.takeDue now).2 then none else s.pending.get table :=
  s.pending.get_foldl_set_none (s.dueTables now) table

end Storage

/-! ### Runs and their logs -/

/-- What happens to pending saves. -/
inductive SaveEvent where
  /-- A save of a table is asked for within a delay. -/
  | scheduled (table : SaveTable) (delay : Nat)
  /-- The saves are completed that are due at a time, which need not be the present one. -/
  | taken (time : Nat)
  /-- The clock goes on. -/
  | passed (duration : Nat)

/-- What a run notes of its saves. -/
inductive SaveRecord where
  /-- A save was asked for at a time within a delay. -/
  | requested (table : SaveTable) (time delay : Nat)
  /-- The saves that were due at a time were completed. -/
  | completed (time : Nat) (tables : List SaveTable)

namespace SaveRecord

/-- The deadline that a request sets to the save of a table. -/
def deadline? (table : SaveTable) : SaveRecord → Option Nat
  | .requested table' time delay => if table' = table then some (time + delay) else none
  | .completed _ _ => none

/-- The tables that were completed. -/
def tables : SaveRecord → List SaveTable
  | .requested _ _ _ => []
  | .completed _ tables => tables

/-- The deadlines that were asked for since a table was completed last. -/
def openDeadlines (log : List SaveRecord) (table : SaveTable) : List Nat :=
  (log.rtakeWhile fun record => table ∉ record.tables).filterMap (deadline? table)

variable {after : List SaveRecord} {table : SaveTable}

theorem openDeadlines_requested (log : List SaveRecord) (table : SaveTable) (time delay : Nat)
    (table' : SaveTable) :
    openDeadlines (log ++ [.requested table time delay]) table' =
      openDeadlines log table' ++ if table' = table then [time + delay] else [] := by
  unfold openDeadlines
  rw [List.rtakeWhile_concat]
  by_cases htable : table' = table
  · simp [tables, deadline?, htable]
  · simp [tables, deadline?, htable, Ne.symm htable]

theorem openDeadlines_completed (log : List SaveRecord) (time : Nat) (due : List SaveTable)
    (table : SaveTable) :
    openDeadlines (log ++ [.completed time due]) table =
      if table ∈ due then [] else openDeadlines log table := by
  unfold openDeadlines
  rw [List.rtakeWhile_concat]
  by_cases htable : table ∈ due <;> simp [tables, deadline?, htable]

/-- A request counts as long as its table is not completed. -/
theorem mem_openDeadlines (before : List SaveRecord) (time delay : Nat)
    (h : ∀ record ∈ after, table ∉ record.tables) :
    time + delay ∈ openDeadlines (before ++ .requested table time delay :: after) table := by
  have hsuffix : (before ++ .requested table time delay :: after).rtakeWhile
      (fun record => table ∉ record.tables) =
        (before.rtakeWhile fun record => table ∉ record.tables) ++
          .requested table time delay :: after := by
    have hall : ∀ record ∈ (.requested table time delay :: after : List SaveRecord).reverse,
        decide (table ∉ record.tables) = true := by
      intro record hrecord
      rw [List.mem_reverse, List.mem_cons] at hrecord
      rcases hrecord with rfl | hrecord
      · simp [tables]
      · simpa using h record hrecord
    simp only [List.rtakeWhile, List.reverse_append]
    rw [List.takeWhile_append_of_pos hall, List.reverse_append, List.reverse_reverse]
  rw [openDeadlines, hsuffix]
  simp [deadline?]

/-- As long as its table is not completed, a request bounds the earliest open deadline. -/
theorem exists_min_openDeadlines (before : List SaveRecord) (time delay : Nat)
    (h : ∀ record ∈ after, table ∉ record.tables) :
    ∃ deadline,
      (openDeadlines (before ++ .requested table time delay :: after) table).min? = some deadline ∧
        deadline ≤ time + delay := by
  have hmem := mem_openDeadlines before time delay h
  cases hmin : (openDeadlines (before ++ .requested table time delay :: after) table).min? with
  | none =>
    rw [List.min?_eq_none_iff.mp hmin] at hmem
    cases hmem
  | some deadline => exact ⟨deadline, rfl, (List.min?_eq_some_iff.mp hmin).2 _ hmem⟩

end SaveRecord

/-- A run of requests and completions: the clock, the storage and what was noted. -/
structure SaveRun where
  clock : Nat
  storage : Storage := {}
  log : List SaveRecord := []

namespace SaveRun

open SaveRecord

variable {r : SaveRun}

/-- The run after an event. -/
def step (r : SaveRun) : SaveEvent → SaveRun
  | .scheduled table delay =>
    { r with
      storage := r.storage.scheduleSave r.clock table delay
      log := r.log ++ [.requested table r.clock delay] }
  | .taken time =>
    { r with
      storage := (r.storage.takeDue time).1
      log := r.log ++ [.completed time (r.storage.takeDue time).2] }
  | .passed duration => { r with clock := r.clock + duration }

/-- The run of events that begins at a time with nothing stored. -/
def ofEvents (start : Nat) (events : List SaveEvent) : SaveRun :=
  events.foldl step { clock := start }

/-- The log accounts for the storage: a table is pending with the earliest of its open deadlines, all
completed tables are counted, and each completion was one of what was due by the log before it. -/
structure Accounts (r : SaveRun) : Prop where
  pending : ∀ table, r.storage.pending.get table = (openDeadlines r.log table).min?
  saves : r.storage.saves = (r.log.flatMap SaveRecord.tables).length
  completed : EachEntry (fun before record => ∀ time due, record = .completed time due →
    ∀ table, table ∈ due ↔
      ∃ deadline, (openDeadlines before table).min? = some deadline ∧ deadline ≤ time) r.log

/-- The least of some numbers and one more. -/
theorem min?_concat (numbers : List Nat) (n : Nat) :
    (numbers ++ [n]).min? = some ((numbers.min?.map (min · n)).getD n) := by
  cases numbers with
  | nil => rfl
  | cons first rest =>
    rw [List.cons_append, List.min?_cons', List.min?_cons', List.foldl_append]
    rfl

theorem Accounts.scheduled (h : r.Accounts) (table : SaveTable) (delay : Nat) :
    (r.step (.scheduled table delay)).Accounts where
  pending table' := by
    show (r.storage.scheduleSave r.clock table delay).pending.get table' = _
    rw [Storage.get_scheduleSave, step, openDeadlines_requested]
    split_ifs with htable
    · rw [min?_concat, htable, h.pending]
    · rw [List.append_nil, h.pending]
  saves := by simpa [step, Storage.scheduleSave, SaveRecord.tables] using h.saves
  completed := h.completed.concat (by simp)

theorem Accounts.taken (h : r.Accounts) (time : Nat) : (r.step (.taken time)).Accounts where
  pending table := by
    show (r.storage.takeDue time).1.pending.get table = _
    rw [Storage.get_takeDue, step, openDeadlines_completed, h.pending]
    split_ifs <;> rfl
  saves := by simp [step, Storage.takeDue, SaveRecord.tables, h.saves]
  completed := by
    apply h.completed.concat
    rintro _ _ ⟨rfl, rfl⟩ table
    rw [← h.pending]
    exact Storage.mem_dueTables

theorem Accounts.step (h : r.Accounts) (event : SaveEvent) : (r.step event).Accounts := by
  cases event with
  | scheduled table delay => exact h.scheduled table delay
  | taken time => exact h.taken time
  | passed duration => exact ⟨h.pending, h.saves, h.completed⟩

theorem accounts_ofEvents (start : Nat) (events : List SaveEvent) :
    (ofEvents start events).Accounts := by
  have hstart : ({ clock := start } : SaveRun).Accounts := by
    refine ⟨fun table => ?_, rfl, .nil⟩
    cases table <;> rfl
  exact List.foldlRecOn events SaveRun.step hstart fun _ h event _ => h.step event

/-- **Merged requests are all met.**  Along every run of requests and completions, on a clock that goes
on or stands still, a table is pending with the earliest deadline that was asked for since it was
completed last, and is not pending if none was.  Completing what is due at a time gives the tables
whose deadline is not later, each once, and leaves the other deadlines as they are; all completed
tables are counted.

So a request is never lost: either its table was completed after it, or the table is pending with a
deadline that is not later than the one asked for.  And it never waits longer than until the first
completion at its own deadline or later. -/
theorem saves_account (start : Nat) (events : List SaveEvent) :
    let r := ofEvents start events
    (∀ table, r.storage.pending.get table = (openDeadlines r.log table).min?) ∧
    (∀ time, (r.storage.takeDue time).2.Nodup ∧
      ∀ table,
        (table ∈ (r.storage.takeDue time).2 ↔
          ∃ deadline, r.storage.pending.get table = some deadline ∧ deadline ≤ time) ∧
        (r.storage.takeDue time).1.pending.get table =
          if table ∈ (r.storage.takeDue time).2 then none else r.storage.pending.get table) ∧
    r.storage.saves = (r.log.flatMap SaveRecord.tables).length ∧
    ∀ before table time delay after, r.log = before ++ .requested table time delay :: after →
      ((∃ record ∈ after, table ∈ record.tables) ∨
        ∃ deadline, r.storage.pending.get table = some deadline ∧ deadline ≤ time + delay) ∧
      ∀ between now due later, after = between ++ .completed now due :: later →
        time + delay ≤ now → ∃ record ∈ between ++ [.completed now due], table ∈ record.tables := by
  intro r
  have h : r.Accounts := accounts_ofEvents start events
  refine ⟨h.pending, fun time => ⟨Storage.nodup_dueTables, fun table => ?_⟩, h.saves, ?_⟩
  · exact ⟨Storage.mem_dueTables, r.storage.get_takeDue time table⟩
  intro before table time delay after hlog
  constructor
  · by_cases hdone : ∃ record ∈ after, table ∈ record.tables
    · exact .inl hdone
    · right
      rw [h.pending, hlog]
      apply exists_min_openDeadlines
      simpa using hdone
  · intro between now due later hafter hnow
    by_cases hdone : ∃ record ∈ between, table ∈ record.tables
    · obtain ⟨record, hrecord, htable⟩ := hdone
      exact ⟨record, List.mem_append_left _ hrecord, htable⟩
    · -- The deadline is open when the completion comes, so that the table is due.
      refine ⟨.completed now due, by simp, ?_⟩
      have hsplit : r.log =
          (before ++ .requested table time delay :: between) ++ .completed now due :: later := by
        simp [hlog, hafter]
      show table ∈ due
      rw [h.completed _ _ _ hsplit now due rfl table]
      have hwaiting : ∀ record ∈ between, table ∉ record.tables := by simpa using hdone
      obtain ⟨deadline, hmin, hle⟩ := exists_min_openDeadlines before time delay hwaiting
      exact ⟨deadline, hmin, by omega⟩

/-- Three requests are merged to the earliest, and one completion meets them all. -/
example :
    let asked : List SaveEvent :=
      [.scheduled .sensors 900, .scheduled .sensors 5, .passed 2, .scheduled .sensors 3600]
    let r := ofEvents 0 asked
    r.storage.pending.get .sensors = some 5 ∧ (r.step (.taken 4)).storage.saves = 0 ∧
      (r.step (.taken 5)).storage.pending.get .sensors = none := by decide

end SaveRun

end ZigbeeGateway
