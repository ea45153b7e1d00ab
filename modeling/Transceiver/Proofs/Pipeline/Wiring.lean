import Mathlib.Data.List.Induction
import Transceiver.Proofs.Pipeline.Assembly
import Transceiver.Proofs.Pipeline.Standing

/-!
The wiring of a pipeline. The interface numbers its queues when it is initialized, the assembly
counts channels, and the core files what it is given by slot; no part compares its number with that
of another. All three agree: the slot of a channel holds the queue that the interface hands out for
it, and what is written to a channel is read from that channel alone.
-/

namespace Transceiver.Pipeline

namespace Bench

def reached (script : Script) (moves : List Move) : Bench :=
  moves.foldl moved { script }

def recorded (script : Script) (moves : List Move) : List Event :=
  gather events { script } moves

def queue? (bench : Bench) (channel : Nat) : Option FifoId :=
  bench.interface?.bind fun interface => interface.fifo? bench.script channel

def HandsOut (bench : Bench) (channel : Nat) (id : FifoId) : Prop :=
  ∃ handle, (bench.step (.receiveFifo channel)).1.answer = .fifo handle channel ∧
    (bench.step (.receiveFifo channel)).2.held[handle]? = some id

/-- A handle was given for a channel, and so many initializations came before. -/
def Given (script : Script) (moves : List Move) (handle channel inits : Nat) : Prop :=
  ∃ past later, moves = past ++ .step (.receiveFifo channel) :: later ∧
    ((reached script past).step (.receiveFifo channel)).1.answer = .fifo handle channel ∧
    (Standing.of (recorded script past)).inits = inits

end Bench

def Move.keepsCore : Move → Bool
  | .step .drop | .step (.attach _ _) => false
  | _ => true

open Bench

structure CoreWired (script : Script) (past moves : List Move) (config : Config) : Prop where
  attached : ∀ channel < config.channels, ∃ id,
    (reached script moves).slot? channel = some id ∧
      (reached script past).HandsOut channel id ∧ (reached script moves).HandsOut channel id ∧
      ((reached script moves).fifoOf id).channel = channel ∧
      ∀ handle, (reached script moves).held[handle]? = some id ↔
        Given script moves handle channel (Standing.of (recorded script moves)).inits
  apart : ∀ first second id, (reached script moves).slot? first = some id →
    (reached script moves).slot? second = some id → first = second
  nowhereElse : ∀ channel ≥ config.channels, (reached script moves).slot? channel = none

structure Wired (script : Script) (moves : List Move) : Prop where
  present : ∀ channels ready,
    (Standing.of (recorded script moves)).mounted = some (channels, ready) → ∀ channel,
      ((reached script moves).step (.receiveFifo channel)).1.answer =
        if ready = true ∧ channel < channels ∧ script.missingFifo ≠ some channel then
          .fifo (reached script moves).held.length channel
        else .nothing
  named : ∀ handle id, (reached script moves).held[handle]? = some id ↔
    Given script moves handle id.channel (id.table + 1)
  shared : ∀ first second channel other inits, Given script moves first channel inits →
    Given script moves second other inits →
      ((reached script moves).held[first]? = (reached script moves).held[second]? ↔
        channel = other)
  served : ∀ id, (Fifo.create id.channel Fifo.defaultDepth).Answers
    (historyOf id (gather dealings { script } moves)) ((reached script moves).fifoOf id)
  ordered : ∀ id, (historyOf id (gather dealings { script } moves)).accepted =
    (historyOf id (gather dealings { script } moves)).delivered ++
      ((reached script moves).fifoOf id).queued
  answered : ∀ past step later, moves = past ++ .step step :: later →
    ∀ dealing ∈ (reached script past).dealings (.step step),
      ((reached script past).step step).1.answer = .ofReply dealing.reply
  assembled : ∀ past config later channels, moves = past ++ .step (.assemble config) :: later →
    ((reached script past).step (.assemble config)).1.answer = .assembled channels →
      (∀ move ∈ later, move.keepsCore = true) →
        channels = config.channels ∧ CoreWired script past moves config

namespace Bench

theorem reached_append (script : Script) (past later : List Move) :
    reached script (past ++ later) = later.foldl moved (reached script past) :=
  List.foldl_append

theorem reached_concat (script : Script) (past : List Move) (move : Move) :
    reached script (past ++ [move]) = (reached script past).moved move :=
  reached_append script past [move]

/-! Handing out queues. -/

theorem fifo?_channel {script : Script} {interface : Interface} {channel : Nat} {id : FifoId}
    (known : interface.fifo? script channel = some id) : id.channel = channel := by
  obtain ⟨_, _, _, _, rfl⟩ := Interface.fifo?_eq_some_iff.mp known
  rfl

theorem queue?_channel {bench : Bench} {channel : Nat} {id : FifoId}
    (known : bench.queue? channel = some id) : id.channel = channel := by
  obtain ⟨interface, _, handed⟩ := Option.bind_eq_some_iff.mp known
  exact fifo?_channel handed

/-- Only a request for a queue adds a handle, and nothing changes the script. -/
theorem framed_moved (bench : Bench) (move : Move)
    (other : ∀ channel, move ≠ .step (.receiveFifo channel)) :
    (bench.moved move).script = bench.script ∧ (bench.moved move).held = bench.held := by
  cases move with
  | step step =>
      cases step with
      | write handle vector =>
          simp only [moved, Bench.step, write]
          split
          · exact ⟨rfl, rfl⟩
          · split
            · exact ⟨rfl, rfl⟩
            · exact ⟨rfl, rfl⟩
      | read handle =>
          simp only [moved, Bench.step, read]
          split
          · exact ⟨rfl, rfl⟩
          · exact ⟨rfl, rfl⟩
      | receiveFifo channel => exact absurd rfl (other channel)
      | _ => exact ⟨(bench.effect_step _ rfl).frames.script, (bench.effect_step _ rfl).frames.held⟩
  | through | attached =>
      simp only [moved]
      split
      · exact ⟨rfl, rfl⟩
      · exact ⟨rfl, rfl⟩

theorem step_receiveFifo_queue? (bench : Bench) (channel : Nat) :
    (bench.step (.receiveFifo channel)).2 =
      { bench with held := bench.held ++ (bench.queue? channel).toList } := by
  rw [step_receiveFifo]
  cases mounted : bench.interface? with
  | none => simp [queue?, mounted]
  | some interface =>
      simp only [queue?, mounted, Option.bind_some, receiveFifo]
      split
      next absent => simp [absent]
      next id known => simp [known]

theorem answer_receiveFifo (bench : Bench) {interface : Interface}
    (mounted : bench.interface? = some interface) (channel : Nat) :
    (bench.step (.receiveFifo channel)).1.answer =
      match bench.queue? channel with
      | none => .nothing
      | some _ => .fifo bench.held.length channel := by
  have asked : bench.queue? channel = interface.fifo? bench.script channel := by
    rw [queue?, mounted, Option.bind_some]
  rw [step_receiveFifo, mounted, asked]
  simp only [receiveFifo]
  cases known : interface.fifo? bench.script channel with
  | none => rfl
  | some id => exact congrArg (Answer.fifo bench.held.length) (fifo?_channel known)

/-- A request for a queue is answered with a handle exactly if there is one to hand out. -/
theorem answer_fifo_iff (bench : Bench) (channel handle : Nat) :
    (bench.step (.receiveFifo channel)).1.answer = .fifo handle channel ↔
      (bench.queue? channel).isSome ∧ handle = bench.held.length := by
  cases mounted : bench.interface? with
  | none => simp [step_receiveFifo, queue?, mounted]
  | some interface =>
      rw [bench.answer_receiveFifo mounted]
      cases known : bench.queue? channel with
      | none => simp
      | some id => simp [eq_comm]

theorem handsOut_of_queue? {bench : Bench} {channel : Nat} {id : FifoId}
    (known : bench.queue? channel = some id) : bench.HandsOut channel id := by
  refine ⟨bench.held.length, (bench.answer_fifo_iff channel _).mpr ⟨by simp [known], rfl⟩, ?_⟩
  simp [step_receiveFifo_queue?, known]

theorem script_reached (script : Script) (moves : List Move) :
    (reached script moves).script = script := by
  induction moves using List.reverseRecOn with
  | nil => rfl
  | append_singleton past move ih =>
      rw [reached_concat]
      by_cases takes : ∃ channel, move = .step (.receiveFifo channel)
      · obtain ⟨channel, rfl⟩ := takes
        rw [moved, step_receiveFifo_queue?]
        exact ih
      · rw [((reached script past).framed_moved move fun channel same =>
          takes ⟨channel, same⟩).1, ih]

theorem stands_reached (script : Script) (moves : List Move) :
    Stands (Standing.of (recorded script moves)) (reached script moves) :=
  stands_of_run script moves

/-- What the interface hands out, read off the interface that stands. -/
theorem queue?_of_stands {standing : Standing} {bench : Bench} (stands : Stands standing bench)
    {channels : Nat} {ready : Bool} (mounted : standing.mounted = some (channels, ready))
    (channel : Nat) :
    (bench.queue? channel).isSome = true ↔
      ready = true ∧ channel < channels ∧ bench.script.missingFifo ≠ some channel := by
  have described := stands.mounted
  rw [mounted, eq_comm, Option.map_eq_some_iff] at described
  obtain ⟨interface, present, agree⟩ := described
  obtain ⟨rfl, rfl⟩ := Prod.mk.inj agree
  cases made : interface.table with
  | none => simp [queue?, present, Interface.fifo?_bare _ made]
  | some table => simp [queue?, present, Interface.fifo?_ready _ made]

theorem queue?_table {standing : Standing} {bench : Bench} (stands : Stands standing bench)
    {channel : Nat} {id : FifoId} (known : bench.queue? channel = some id) :
    standing.inits = id.table + 1 := by
  obtain ⟨interface, present, handed⟩ := Option.bind_eq_some_iff.mp known
  have latest := stands.latest interface present
  rw [stands.inits] at latest
  obtain ⟨table, made, _, _, rfl⟩ := Interface.fifo?_eq_some_iff.mp handed
  exact (latest table made).symm

theorem given_concat (script : Script) (past : List Move) (move : Move)
    (handle channel inits : Nat) :
    Given script (past ++ [move]) handle channel inits ↔
      Given script past handle channel inits ∨
        move = .step (.receiveFifo channel) ∧
          ((reached script past).step (.receiveFifo channel)).1.answer = .fifo handle channel ∧
          (Standing.of (recorded script past)).inits = inits := by
  constructor
  · rintro ⟨earlier, later, split, given⟩
    rcases List.eq_nil_or_concat later with rfl | ⟨later, final, rfl⟩
    · obtain ⟨rfl, same⟩ := List.append_inj' split rfl
      exact .inr ⟨List.singleton_inj.mp same, given⟩
    · rw [List.concat_eq_append, ← List.cons_append, ← List.append_assoc] at split
      exact .inl ⟨earlier, later, (List.append_inj' split rfl).1, given⟩
  · rintro (⟨earlier, later, rfl, given⟩ | ⟨rfl, given⟩)
    · exact ⟨earlier, later ++ [move], by simp, given⟩
    · exact ⟨past, [], rfl, given⟩

/-- A handle names the queue of the channel it was given for, in the table that was made last when
it was given. -/
theorem named_reached (script : Script) (moves : List Move) (handle : Nat) (id : FifoId) :
    (reached script moves).held[handle]? = some id ↔
      Given script moves handle id.channel (id.table + 1) := by
  induction moves using List.reverseRecOn with
  | nil =>
      constructor
      · intro found
        cases found
      · rintro ⟨past, later, split, _⟩
        simp at split
  | append_singleton past move ih =>
      rw [given_concat, ← ih, reached_concat]
      by_cases takes : ∃ channel, move = .step (.receiveFifo channel)
      · obtain ⟨channel, rfl⟩ := takes
        simp only [moved, step_receiveFifo_queue?]
        cases known : (reached script past).queue? channel with
        | none =>
            simp only [Option.toList_none, List.append_nil]
            constructor
            · exact .inl
            · rintro (found | ⟨same, answered, _⟩)
              · exact found
              · cases same
                simp [answer_fifo_iff, known] at answered
        | some given =>
            have table := queue?_table (stands_reached script past) known
            have numbered := queue?_channel known
            simp only [Option.toList_some]
            constructor
            · intro found
              by_cases earlier : handle < (reached script past).held.length
              · rw [List.getElem?_append_left earlier] at found
                exact .inl found
              · rw [List.getElem?_append_right (by omega), List.getElem?_singleton] at found
                obtain ⟨next, same⟩ : handle - (reached script past).held.length = 0 ∧
                    given = id := by simpa using found
                subst given channel
                exact .inr ⟨rfl, (answer_fifo_iff _ _ _).mpr ⟨by simp [known], by omega⟩, table⟩
            · rintro (found | ⟨same, answered, inits⟩)
              · rw [List.getElem?_append_left (List.getElem?_eq_some_iff.mp found).1]
                exact found
              · cases same
                obtain ⟨_, rfl⟩ := (answer_fifo_iff _ _ _).mp answered
                have same : given = id := by
                  obtain ⟨givenTable, givenChannel⟩ := given
                  obtain ⟨idTable, idChannel⟩ := id
                  simp only [FifoId.mk.injEq] at table numbered inits ⊢
                  omega
                simp [same]
      · rw [((reached script past).framed_moved move fun channel same =>
          takes ⟨channel, same⟩).2]
        constructor
        · exact .inl
        · rintro (found | ⟨same, _⟩)
          · exact found
          · exact absurd ⟨_, same⟩ takes

theorem names_of_given {script : Script} {moves : List Move} {handle channel inits : Nat}
    (given : Given script moves handle channel inits) :
    ∃ table, inits = table + 1 ∧ (reached script moves).held[handle]? = some ⟨table, channel⟩ := by
  have asked := given
  obtain ⟨past, later, _, answered, made⟩ := asked
  obtain ⟨present, _⟩ := (answer_fifo_iff _ _ _).mp answered
  obtain ⟨id, known⟩ := Option.isSome_iff_exists.mp present
  have table := queue?_table (stands_reached script past) known
  rw [made] at table
  subst table
  exact ⟨id.table, rfl, (named_reached script moves handle ⟨id.table, channel⟩).mpr given⟩

/-! The core. -/

theorem core_moved {bench : Bench} {device : Device} {interface : Interface} {core : Core}
    (level : bench.level = .core device interface core) {move : Move}
    (kept : move.keepsCore = true) : (bench.moved move).level = .core device interface core := by
  cases move with
  | step step =>
      cases step with
      | drop | attach => cases kept
      | initCore settings =>
          simp only [moved, Bench.step, level, stepCore]
          split
          all_goals exact level
      | receiveFifo channel =>
          simp only [moved, step_receiveFifo_queue?]
          exact level
      | write handle vector =>
          simp only [moved, Bench.step, write]
          split
          · exact level
          · split
            · exact level
            · exact level
      | read handle =>
          simp only [moved, Bench.step, read]
          split
          · exact level
          · exact level
      | _ =>
          simp only [moved, Bench.step, level, stepCore]
  | through | attached =>
      simp only [moved]
      split
      · exact level
      · exact level

theorem core_kept {bench : Bench} {device : Device} {interface : Interface} {core : Core}
    (level : bench.level = .core device interface core) {later : List Move}
    (kept : ∀ move ∈ later, move.keepsCore = true) :
    (later.foldl moved bench).level = .core device interface core := by
  induction later generalizing bench with
  | nil => exact level
  | cons move rest ih =>
      have next := core_moved level (kept move List.mem_cons_self)
      exact ih next fun other member => kept other (List.mem_cons_of_mem move member)

/-- A successful assembly on the bench, taken apart. -/
theorem assembled_step {bench : Bench} {config : Config} {channels : Nat}
    (answered : (bench.step (.assemble config)).1.answer = .assembled channels) :
    ∃ device interface core, bench.level = .interface device interface ∧
      (assemble bench.script config interface).outcome = .done core ∧
      (bench.step (.assemble config)).2.level = .core device interface core ∧
      channels = core.params.channels := by
  cases level : bench.level with
  | interface device interface =>
      have spares := spares_step level config
      cases outcome : (assemble bench.script config interface).outcome with
      | done core =>
          obtain ⟨named, next⟩ := spares.done core outcome
          rw [answered] at named
          cases named
          exact ⟨device, interface, core, rfl, outcome, by rw [next]; rfl, rfl⟩
      | failed error =>
          rw [(spares.failed error outcome).1] at answered
          cases answered
      | overflow => simp [Bench.step, level, stepInterface, outcome] at answered
  | outside => simp [Bench.step, level, stepOutside] at answered
  | device device => simp [Bench.step, level, stepDevice] at answered
  | core device interface core => simp [Bench.step, level, stepCore] at answered

theorem served_reached (script : Script) (moves : List Move) (id : FifoId) :
    (Fifo.create id.channel Fifo.defaultDepth).Answers
      (historyOf id (gather dealings { script } moves)) ((reached script moves).fifoOf id) :=
  answers_historyOf { script } moves id

theorem coreWired_of_assembled {script : Script} {past later : List Move} {config : Config}
    {channels : Nat}
    (answered : ((reached script past).step (.assemble config)).1.answer = .assembled channels)
    (kept : ∀ move ∈ later, move.keepsCore = true) :
    channels = config.channels ∧
      CoreWired script past (past ++ .step (.assemble config) :: later) config := by
  obtain ⟨device, interface, core, below, done, level, named⟩ := assembled_step answered
  obtain ⟨params, inside, beyond⟩ := slots_of_assemble done
  rw [script_reached] at inside
  have last : (reached script (past ++ .step (.assemble config) :: later)).level =
      .core device interface core := by
    rw [reached_append, List.foldl_cons]
    exact core_kept level kept
  have slots (channel : Nat) :
      (reached script (past ++ .step (.assemble config) :: later)).slot? channel =
        core.slot? channel := by simp only [Bench.slot?, last]
  refine ⟨by rw [named, params]; rfl, ?_, ?_, ?_⟩
  · intro channel configured
    obtain ⟨present, filed⟩ := inside channel configured
    obtain ⟨id, handed⟩ := Option.isSome_iff_exists.mp present
    have before : (reached script past).queue? channel = some id := by
      simp [queue?, interface?_of_interface below, script_reached, handed]
    have now : (reached script (past ++ .step (.assemble config) :: later)).queue? channel =
        some id := by
      simp [queue?, interface?_of_core last, script_reached, handed]
    refine ⟨id, by rw [slots, filed, handed], handsOut_of_queue? before, handsOut_of_queue? now,
      ?_, ?_⟩
    · rw [(served_reached script _ id).keeps.1]
      exact fifo?_channel handed
    · intro handle
      rw [named_reached, queue?_table (stands_reached script _) now, fifo?_channel handed]
  · have numbered : ∀ channel id, core.slot? channel = some id → id.channel = channel := by
      intro channel id filled
      by_cases configured : channel < config.channels
      · rw [(inside channel configured).2] at filled
        exact fifo?_channel filled
      · rw [beyond channel (by omega)] at filled
        cases filled
    intro first second id firstHas secondHas
    rw [slots] at firstHas secondHas
    rw [← numbered first id firstHas, ← numbered second id secondHas]
  · intro channel outside
    rw [slots, beyond channel outside]

end Bench

/-- After any moves on a pipeline its queues, handles and slots belong together. -/
theorem wired_of_moves (script : Script) (moves : List Move) : Wired script moves := by
  have stands := stands_reached script moves
  constructor
  · intro channels ready mounted channel
    have described := stands.mounted
    rw [mounted, eq_comm, Option.map_eq_some_iff] at described
    obtain ⟨interface, present, _⟩ := described
    have handed := queue?_of_stands stands mounted channel
    rw [script_reached] at handed
    rw [answer_receiveFifo _ present]
    cases known : (reached script moves).queue? channel with
    | none =>
        rw [known] at handed
        rw [if_neg (handed.not.mp (by simp))]
    | some id =>
        rw [known] at handed
        rw [if_pos (handed.mp rfl)]
  · exact named_reached script moves
  · intro first second channel other inits firstGiven secondGiven
    obtain ⟨table, rfl, firstNames⟩ := names_of_given firstGiven
    obtain ⟨sameTable, same, secondNames⟩ := names_of_given secondGiven
    cases same
    rw [firstNames, secondNames]
    simp
  · exact served_reached script moves
  · intro id
    exact (served_reached script moves id).conserves
  · intro past step later split
    exact (reached script past).answer_step step
  · rintro past config later channels rfl answered kept
    exact coreWired_of_assembled answered kept

/-- A vector that is written through a handle of channel 1 is read by the core from its slot 1. -/
theorem wired_of_written_handle :
    let script : Script := { missingFifo := some 2 }
    let config := Config.shipped 2
    let vector : SampleVector := ⟨7, []⟩
    let past : List Move :=
      [.step (.makeDevice config), .step (.negotiate config), .step (.buildInterface 0 config),
        .step (.receiveFifo 1)]
    let later : List Move :=
      [.step (.write 0 vector), .step (.receiveFifo 0), .step (.read 1), .attached 1 .read]
    let moves := past ++ .step (.assemble config) :: later
    (Standing.of (recorded script moves)).mounted = some (2, true) ∧
      ((reached script past).step (.assemble config)).1.answer = .assembled 2 ∧
      (∀ move ∈ later, move.keepsCore = true) ∧
      (historyOf ⟨0, 1⟩ (gather dealings { script } moves)).delivered = [vector] ∧
      (historyOf ⟨0, 0⟩ (gather dealings { script } moves)).delivered = [] ∧
      CoreWired script past moves config ∧ Wired script moves := by
  intro script config vector past later moves
  have mounted : (Standing.of (recorded script moves)).mounted = some (2, true) := by decide
  have answered : ((reached script past).step (.assemble config)).1.answer = .assembled 2 := by
    decide
  have kept : ∀ move ∈ later, move.keepsCore = true := by decide
  have taken : (historyOf ⟨0, 1⟩ (gather dealings { script } moves)).delivered = [vector] := by
    decide
  have idle : (historyOf ⟨0, 0⟩ (gather dealings { script } moves)).delivered = [] := by decide
  have wired := wired_of_moves script moves
  exact ⟨mounted, answered, kept, taken, idle,
    (wired.assembled past config later 2 rfl answered kept).2, wired⟩

end Transceiver.Pipeline
