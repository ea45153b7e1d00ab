import Transceiver.Proofs.Pipeline.Traffic

/-!
The interface that stands, read off the events: the last one built, as long as it is not released,
and whether it was initialized since. The number of initializations so far also numbers the tables
of receive queues, so that the queues of an initialized interface are those of the last table made.
-/

namespace Transceiver

structure Standing where
  inits : Nat := 0
  mounted : Option (Nat × Bool) := none

namespace Standing

def after (standing : Standing) : Event → Standing
  | .interfaceBuilt _ channels => { standing with mounted := some (channels, false) }
  | .interfaceInitialized _ =>
      ⟨standing.inits + 1, standing.mounted.map fun (channels, _) => (channels, true)⟩
  | .interfaceReleased => { standing with mounted := none }
  | _ => standing

def of (events : List Event) : Standing :=
  events.foldl after {}

end Standing

theorem Standing.after_silent (standing : Standing) {events : List Event}
    (silent : ∀ event ∈ events, event.ofInterface = false) :
    events.foldl after standing = standing := by
  induction events with
  | nil => rfl
  | cons event rest ih =>
      have first : standing.after event = standing := by
        have quiet := silent event List.mem_cons_self
        cases event with
        | interfaceBuilt | interfaceInitialized | interfaceReleased => cases quiet
        | _ => rfl
      rw [List.foldl_cons, first]
      exact ih fun other member => silent other (List.mem_cons_of_mem event member)

namespace Pipeline

namespace Bench

theorem turn_write (bench : Bench) (handle : Nat) (vector : SampleVector) :
    Turn bench (bench.write handle vector).2 (bench.write handle vector).1.trace.events := by
  unfold write
  split
  · exact bench.turn_idle
  · split
    · exact bench.turn_idle
    · exact .kept rfl rfl (by simp)

theorem turn_read (bench : Bench) (handle : Nat) :
    Turn bench (bench.read handle).2 (bench.read handle).1.trace.events := by
  unfold read
  split
  · exact bench.turn_idle
  · exact .kept rfl rfl (by simp)

theorem turn_receiveFifo (bench : Bench) (interface : Interface) (channel : Nat) :
    Turn bench (bench.receiveFifo interface channel).2
      (bench.receiveFifo interface channel).1.trace.events := by
  unfold receiveFifo
  split
  · exact bench.turn_idle
  · exact .kept rfl rfl (by simp)

theorem turn_step (bench : Bench) (step : Step) :
    Turn bench (bench.step step).2 (bench.step step).1.trace.events := by
  cases step with
  | write handle vector => exact bench.turn_write handle vector
  | read handle => exact bench.turn_read handle
  | receiveFifo channel =>
      rw [step_receiveFifo]
      split
      · exact bench.turn_idle
      · exact bench.turn_receiveFifo _ channel
  | _ => exact (bench.effect_step _ rfl).turn

theorem turn_moved (bench : Bench) (move : Move) :
    Turn bench (bench.moved move) (bench.events move) := by
  cases move with
  | step step => exact bench.turn_step step
  | through handle op =>
      simp only [moved]
      split
      · exact bench.turn_idle
      · exact .kept rfl rfl (by simp [events])
  | attached channel op =>
      simp only [moved]
      split
      · exact bench.turn_idle
      · exact .kept rfl rfl (by simp [events])

structure Stands (standing : Standing) (bench : Bench) : Prop where
  inits : bench.tables = standing.inits
  mounted : standing.mounted =
    bench.interface?.map fun interface => (interface.channels, interface.table.isSome)
  latest : ∀ interface ∈ bench.interface?, ∀ table ∈ interface.table, table + 1 = bench.tables

theorem Stands.after {standing : Standing} {bench next : Bench} {events : List Event}
    (stands : Stands standing bench) (turn : Turn bench next events) :
    Stands (events.foldl Standing.after standing) next := by
  obtain ⟨inits, mounted, latest⟩ := stands
  cases turn with
  | kept tables interface silent =>
      rw [Standing.after_silent standing silent]
      refine ⟨by rw [tables, inits], by rw [interface, mounted], ?_⟩
      rw [tables, interface]
      exact latest
  | mounted interface kind tables present bare left =>
      subst left
      refine ⟨by rw [tables, inits]; rfl, by rw [present]; simp [Standing.after, bare], ?_⟩
      rw [present]
      rintro _ ⟨⟩ table made
      rw [bare] at made
      cases made
  | built interface kind topology tables present table left =>
      subst left
      refine ⟨by rw [tables, inits]; rfl, by rw [present]; simp [Standing.after, table], ?_⟩
      rw [present, tables]
      rintro _ ⟨⟩ made member
      rw [table] at member
      cases member
      rfl
  | initialized interface topology tables before present left =>
      subst left
      refine ⟨by rw [tables, inits]; rfl, ?_, ?_⟩
      · rw [present]
        simp [Standing.after, mounted, before]
      · rw [present, tables]
        rintro _ ⟨⟩ made ⟨⟩
        rfl
  | dismounted tables gone left =>
      rcases left with rfl | ⟨kind, channels, rfl⟩
      · exact ⟨by rw [tables, inits]; rfl, by rw [gone]; rfl, by rw [gone]; rintro _ ⟨⟩⟩
      · exact ⟨by rw [tables, inits]; rfl, by rw [gone]; rfl, by rw [gone]; rintro _ ⟨⟩⟩

theorem Stands.run {standing : Standing} {bench : Bench} (stands : Stands standing bench)
    (moves : List Move) :
    Stands ((bench.gather events moves).foldl Standing.after standing)
      (moves.foldl moved bench) := by
  induction moves generalizing standing bench with
  | nil => exact stands
  | cons move rest ih =>
      simp only [gather, List.foldl_append, List.foldl_cons]
      exact ih (stands.after (bench.turn_moved move))

theorem stands_outside (script : Script) : Stands {} { script } :=
  ⟨rfl, rfl, by rintro _ ⟨⟩⟩

/-- What stands after a run is what its events tell. -/
theorem stands_of_run (script : Script) (moves : List Move) :
    Stands (Standing.of (gather events { script } moves)) (moves.foldl moved { script }) :=
  (stands_outside script).run moves

end Bench

end Pipeline

end Transceiver
