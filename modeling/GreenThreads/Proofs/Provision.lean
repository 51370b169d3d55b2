import GreenThreads.Proofs.Books
import GreenThreads.Proofs.States

/-!
# Stacks of spawned threads

Every configuration that is accepted can be spawned with: no size that its stacks are computed from
leaves the words, and the first frame fits. A kernel thread keeps the bootstrap thread and the
configuration that it was initialized with, and the stack of a spawned thread comes from the
configuration of the kernel thread that has carried out the spawn, wherever the spawner came from.
-/

namespace GreenThreads

namespace Config

theorem validate_of_read {lookup : String → Option String} {config : Config}
    (h : read lookup = .ok config) : config.validate = .ok () := by
  simp only [read, bind, Except.bind] at h
  split at h
  · contradiction
  · split at h
    · contradiction
    · split at h
      · contradiction
      · rename_i hvalid
        cases h
        exact hvalid

/-- The length of the mapping for a stack, the guard page included. -/
def reservation (config : Config) : Nat :=
  roundUpToPages config.stackSize + Stack.Layout.guardSize config.guardPage

section Valid

variable {config : Config} (hvalid : config.validate = .ok ())

include hvalid

theorem padded_lt_of_valid : config.stackSize + (pageSize - 1) < UInt64.size := by
  have hmax := (validate_eq_ok_iff.1 hvalid).2
  simp only [maxStackSize] at hmax
  simp only [pageSize, UInt64.size]
  omega

theorem reservation_lt_of_valid : config.reservation < UInt64.size := by
  have hmax := (validate_eq_ok_iff.1 hvalid).2
  have hguard : Stack.Layout.guardSize config.guardPage ≤ pageSize := by
    unfold Stack.Layout.guardSize
    split <;> omega
  simp only [maxStackSize] at hmax
  simp only [reservation, roundUpToPages, pageSize, UInt64.size] at hguard ⊢
  omega

end Valid

end Config

namespace Thread

/-- A thread as it is made on a mapping at an address: the usable bytes of its stack lie between the
guard page and the end of the mapping, which is aligned. The highest of them are the first frame, at
which the saved stack pointer stands, and all others are zero. -/
structure Furnished (thread : Thread) (stack : Stack) (config : Config) (base : Nat)
    (entry argument : UInt64) : Prop where
  owned : thread.stack = some stack
  bottom_eq : stack.bottom = base + Stack.Layout.guardSize config.guardPage
  top_eq : stack.top = base + config.reservation
  top_lt : stack.top < UInt64.size
  top_aligned : stack.top % stackAlignment = 0
  size_le : config.stackSize ≤ stack.size
  pointer_eq : thread.context.rsp.toNat + X86.frameSize = stack.top
  inside : stack.bottom ≤ thread.context.rsp.toNat
  framed : thread.firstFrame? = some (entry, argument)
  blank : ∀ offset, stack.bottom + offset < thread.context.rsp.toNat →
    stack.readByte? offset = some 0

/-- What a new thread differs in from the stack that it was made on is the first frame. -/
theorem stack_of_create? {id : ThreadId} {stack : Stack} {entry argument : UInt64} {fresh : Thread}
    (hroom : X86.frameSize ≤ stack.size) (h : create? id stack entry argument = some fresh) :
    ∃ byte, fresh.stack = some (stack.withBytes byte) ∧
      fresh.context.rsp.toNat + X86.frameSize = stack.top ∧
      ∀ offset, stack.bottom + offset < fresh.context.rsp.toNat →
        byte offset = stack.byte offset := by
  obtain ⟨next, hwrite, hoffset, hregion⟩ :=
    X86.writeFrame_eq_ok (StackCursor.start stack.region) trampoline entry argument
      (by rw [stack.offset_start]; exact hroom)
  simp only [create?, hwrite, Option.some.injEq] at h
  subst h
  have hpointer : next.address.toNat = stack.bottom + next.offset := by
    rw [StackCursor.toNat_address, hregion]
    rfl
  refine ⟨next.region.byte, rfl, ?_, ?_⟩
  · rw [stack.offset_start] at hoffset
    simp only [hpointer, stack.top_eq]
    omega
  · intro offset hbelow
    have hlt : offset < next.offset := by
      simp only [hpointer] at hbelow
      omega
    rw [hregion, X86.storeFrame, Region.byte_store_of_lt hlt, Region.byte_store_of_lt (by omega),
      Region.byte_store_of_lt (by omega)]
    rfl

/-- A thread that is made with an accepted configuration, on the memory that was granted for it, is
furnished. -/
theorem exists_furnished {config : Config} (hvalid : config.validate = .ok ()) {map : Mapper}
    {base : Nat} (hgrants : map.Grants config.reservation base) (id : ThreadId)
    (entry argument : UInt64) :
    ∃ stack fresh own, Stack.reserve? map config.stackSize config.guardPage = some stack ∧
      create? id stack entry argument = some fresh ∧
      fresh.Furnished own config base entry argument := by
  obtain ⟨stack, hreserve, rfl⟩ := Stack.exists_reserve?_of_grants hgrants
  obtain ⟨hlayout, -, -, hblank⟩ := Stack.reserve?_eq_some_iff.1 hreserve
  obtain ⟨hsize, hguard⟩ := Stack.Layout.of?_eq_some_iff.1 hlayout
  have hle := Stack.le_size_of_reserve? hreserve
  have hroom : X86.frameSize ≤ stack.size := by
    have hmin := (Config.validate_eq_ok_iff.1 hvalid).1
    have : X86.frameSize ≤ Config.minStackSize := by decide
    omega
  obtain ⟨fresh, hcreate, -, -, -, -, hframe⟩ := create?_spec id entry argument hroom
  obtain ⟨byte, hstack, hpointer, hbyte⟩ := stack_of_create? hroom hcreate
  have htop : (stack.withBytes byte).top = stack.base + config.reservation := by
    rw [Config.reservation, ← hsize, ← hguard]
    rfl
  refine ⟨stack, fresh, stack.withBytes byte, hreserve, hcreate, ?_⟩
  exact
    { owned := hstack
      bottom_eq := by rw [← hguard]; rfl
      top_eq := htop
      top_lt := by rw [htop]; exact hgrants.fits
      top_aligned := by
        have hbase := stack.base_aligned
        have haligned := stack.layout.size_aligned
        have hpage := stack.layout.guard_eq
        simp only [pageSize] at hbase haligned hpage
        show (stack.base + (stack.layout.size + stack.layout.guard)) % 16 = 0
        omega
      size_le := hle
      pointer_eq := hpointer
      inside := by
        have := stack.top_eq
        show stack.bottom ≤ fresh.context.rsp.toNat
        omega
      framed := hframe
      blank := by
        intro offset hbelow
        have hbelow : stack.bottom + offset < fresh.context.rsp.toNat := hbelow
        have := stack.top_eq
        have hlt : offset < stack.size := by omega
        show (if offset < stack.size then some (byte offset) else none) = some 0
        rw [if_pos hlt, hbyte offset hbelow, hblank] }

/-- Where a stack lies, whatever its bytes are. -/
def placement? (thread : Thread) : Option (Stack.Layout × Nat) :=
  thread.stack.map fun stack => (stack.layout, stack.base)

@[simp]
theorem placement?_suspended (thread : Thread) :
    thread.suspended.placement? = thread.placement? := by
  unfold suspended
  split <;> rfl

theorem placement?_withStackBytes (thread : Thread) (byte : Nat → UInt8) :
    (thread.withStackBytes byte).placement? = thread.placement? := by
  simp only [placement?, withStackBytes, Option.map_map]
  rfl

theorem placement?_of_create? {id : ThreadId} {stack : Stack} {entry argument : UInt64}
    {fresh : Thread} (h : create? id stack entry argument = some fresh) :
    fresh.placement? = some (stack.layout, stack.base) := by
  unfold create? at h
  split at h
  · cases h
    rfl
  · contradiction

end Thread

namespace View

variable {view next : View} {action : Action} {tallies : List Metrics.Tally} {events : List Event}

/-- No step moves the stack of a thread. A thread that was not there before is a bootstrap thread,
which has none, or comes from a spawn. -/
theorem Change.placement {gone come : List Thread} (h : view.Change action events gone come)
    {other : Thread} (hother : other ∈ come) :
    (∃ thread ∈ gone, thread.id = other.id ∧ thread.placement? = other.placement?) ∨
      other.placement? = none ∨
      ∃ entry argument map, action = .submit (.spawn entry argument map) ∧
        events = [.created view.nextId] ∧ other.id = view.nextId := by
  cases h with
  | move => contradiction
  | attach =>
    rw [List.mem_singleton.1 hother]
    exact Or.inr (Or.inl rfl)
  | spawn id_eq =>
    rw [List.mem_singleton.1 hother]
    exact Or.inr (Or.inr ⟨_, _, _, rfl, rfl, id_eq⟩)
  | mark | exit =>
    rw [List.mem_singleton.1 hother]
    exact Or.inl ⟨_, List.mem_singleton_self _, rfl, rfl⟩
  | compute =>
    rw [List.mem_singleton.1 hother]
    exact Or.inl ⟨_, List.mem_singleton_self _, rfl, (Thread.placement?_withStackBytes _ _).symm⟩
  | @exchange thread next =>
    rcases List.mem_pair.1 hother with rfl | rfl
    · exact Or.inl ⟨thread, List.mem_cons_self, by simp, by simp⟩
    · exact Or.inl ⟨next, by simp, rfl, rfl⟩
  | @switch previous next =>
    rcases List.mem_pair.1 hother with rfl | rfl
    · exact Or.inl ⟨previous, List.mem_cons_self, rfl, rfl⟩
    · exact Or.inl ⟨next, by simp, rfl, rfl⟩

theorem Step.attach_of_bootstrapped (hstep : view.Step action next tallies events) {id : ThreadId}
    (h : .bootstrapped id ∈ events) :
    ∃ config, action = .submit (.attach config) ∧ config.validate = .ok () ∧
      view.kernel.home = none ∧ next.kernel.home = some id ∧ next.kernel.config = config := by
  cases hstep with
  | refuse _ _ refused =>
    obtain ⟨error, heq⟩ := refused _ h
    contradiction
  | attach _ vacant valid =>
    cases List.mem_singleton.1 h
    exact ⟨_, rfl, valid, vacant, rfl, rfl⟩
  | _ => simp at h

theorem Step.spawn_of_created {entry argument : UInt64} {map : Mapper}
    (hstep : view.Step (.submit (.spawn entry argument map)) next tallies events) {id : ThreadId}
    (h : .created id ∈ events) :
    ∃ stack fresh, Stack.reserve? map view.kernel.config.stackSize view.kernel.config.guardPage =
        some stack ∧
      Thread.create? view.nextId stack entry argument = some fresh ∧ fresh.id = view.nextId ∧
      fresh ∈ next.held := by
  cases hstep with
  | refuse _ _ refused =>
    obtain ⟨error, heq⟩ := refused _ h
    contradiction
  | spawn _ _ reserved made id_eq =>
    exact ⟨_, _, reserved, made, id_eq, List.mem_append_right _
      (KernelThread.mem_held_of_carried (List.mem_singleton_self _))⟩

end View

variable {count : Nat} {history : History count} {scheduler : Scheduler count} {k : Fin count}

/-- The step is a spawn that has made the thread, on a stack that the configuration of its kernel
thread calls for. -/
def Transition.Provides (transition : Transition count) (id : ThreadId) (layout : Stack.Layout)
    (base : Nat) : Prop :=
  let config := (transition.before.kernel transition.kernel).config
  ∃ entry argument map, transition.action = .submit (.spawn entry argument map) ∧
    .created id ∈ transition.events ∧
    Stack.Layout.of? config.stackSize config.guardPage = some layout ∧
    map layout.reserved = some base

namespace Transition.Provides

variable {transition : Transition count} {id : ThreadId} {layout : Stack.Layout} {base : Nat}

theorem created (h : transition.Provides id layout base) : .created id ∈ transition.events := by
  obtain ⟨-, -, -, -, hcreated, -⟩ := h
  exact hcreated

theorem layout_eq (h : transition.Provides id layout base) :
    Stack.Layout.of? (transition.before.kernel transition.kernel).config.stackSize
      (transition.before.kernel transition.kernel).config.guardPage = some layout := by
  obtain ⟨-, -, -, -, -, hlayout, -⟩ := h
  exact hlayout

end Transition.Provides

theorem Scheduler.settings_putView {action : Action} {next : View}
    {tallies : List Metrics.Tally} {events : List Event}
    (hstep : (scheduler.view k).Step action next tallies events) {j : Fin count} {home : ThreadId}
    (hhome : (scheduler.kernel j).home = some home) :
    ((scheduler.putView k next tallies).kernel j).home = some home ∧
      ((scheduler.putView k next tallies).kernel j).config = (scheduler.kernel j).config := by
  refine ⟨home_putView_of_some hstep hhome, ?_⟩
  by_cases hj : j = k
  · subst hj
    rw [kernel_putView_self]
    exact hstep.config_of_some hhome
  · rw [kernel_putView_of_ne _ _ _ _ hj]

namespace Run

/-- A kernel thread that is initialized keeps its bootstrap thread and its configuration. -/
theorem settings_of_some (hrun : Run history scheduler) {transition : Transition count}
    (hmem : transition ∈ history) {j : Fin count} {home : ThreadId}
    (hhome : (transition.before.kernel j).home = some home) :
    (scheduler.kernel j).home = some home ∧
      (scheduler.kernel j).config = (transition.before.kernel j).config := by
  induction hrun using Run.induction with
  | start => contradiction
  | step run hconsistent hstep longer ih =>
    rcases List.mem_append.1 hmem with hearlier | hlast
    · obtain ⟨hold, hconfig⟩ := ih hearlier
      obtain ⟨hnew, hsame⟩ := Scheduler.settings_putView hstep hold
      exact ⟨hnew, hsame.trans hconfig⟩
    · cases List.mem_singleton.1 hlast
      exact Scheduler.settings_putView hstep hhome

theorem settings_of_bootstrapped (hrun : Run history scheduler) {transition : Transition count}
    (hmem : transition ∈ history) {id : ThreadId} (hid : .bootstrapped id ∈ transition.events) :
    ∃ config, transition.action = .submit (.attach config) ∧ config.validate = .ok () ∧
      (transition.before.kernel transition.kernel).home = none ∧
      (scheduler.kernel transition.kernel).home = some id ∧
      (scheduler.kernel transition.kernel).config = config := by
  induction hrun using Run.induction with
  | start => contradiction
  | step run hconsistent hstep longer ih =>
    rcases List.mem_append.1 hmem with hearlier | hlast
    · obtain ⟨config, haction, hvalid, hvacant, hhome, hconfig⟩ := ih hearlier
      obtain ⟨hnew, hsame⟩ := Scheduler.settings_putView hstep hhome
      exact ⟨config, haction, hvalid, hvacant, hnew, hsame.trans hconfig⟩
    · cases List.mem_singleton.1 hlast
      rw [Scheduler.kernel_putView_self]
      exact hstep.attach_of_bootstrapped hid

theorem placement_cases (run : Run history scheduler) {action : Action} {next : View}
    {tallies : List Metrics.Tally} {events : List Event}
    (hstep : (scheduler.view k).Step action next tallies events)
    (longer : Run
      (history ++
        [{ before := scheduler, kernel := k, action, after := scheduler.putView k next tallies,
           events }])
      (scheduler.putView k next tallies)) {thread : Thread}
    (hthread : thread ∈ (scheduler.putView k next tallies).held ∨
      thread ∈ (scheduler.kernel k).freedBy action) {layout : Stack.Layout} {base : Nat}
    (hplacement : thread.placement? = some (layout, base)) :
    (∃ old ∈ scheduler.held, old.id = thread.id ∧ old.placement? = some (layout, base)) ∨
      Transition.Provides
        { before := scheduler, kernel := k, action, after := scheduler.putView k next tallies,
          events } thread.id layout base := by
  rcases hthread with hheld | hfreed
  · obtain ⟨gone, come, hchange, hgone, hcases⟩ := run.replaced hstep longer
    rcases hcases thread hheld with hcome | ⟨hold, -⟩
    · rcases hchange.placement hcome with ⟨old, hold, hid, hsame⟩ | hnone |
        ⟨entry, argument, map, rfl, rfl, hid⟩
      · exact Or.inl ⟨old, hgone hold, hid, hsame.trans hplacement⟩
      · rw [hnone] at hplacement
        contradiction
      · obtain ⟨stack, fresh, hreserve, hcreate, hfresh, hnext⟩ :=
          hstep.spawn_of_created (List.mem_singleton_self _)
        have hother : fresh ∈ (scheduler.putView k next tallies).held :=
          Scheduler.mem_held_of_view (k := k) (by rw [Scheduler.view_putView_self]; exact hnext)
        cases longer.eq_of_id_eq hheld hother (hid.trans hfresh.symm)
        rw [Thread.placement?_of_create? hcreate] at hplacement
        cases hplacement
        obtain ⟨hlayout, hanswer, -⟩ := Stack.reserve?_eq_some_iff.1 hreserve
        refine Or.inr ⟨entry, argument, map, rfl, ?_, hlayout, hanswer⟩
        rw [hid]
        exact List.mem_singleton_self _
    · exact Or.inl ⟨thread, hold, rfl, hplacement⟩
  · refine Or.inl ⟨thread, ?_, rfl, hplacement⟩
    exact Scheduler.mem_held.2
      (Or.inr ⟨k, KernelThread.mem_held_of_carried (KernelThread.mem_carried_of_freed hfreed)⟩)

/-- A stack comes from the spawn that has made its thread. -/
theorem exists_provides (hrun : Run history scheduler) {thread : Thread}
    (hthread : thread ∈ scheduler.held ++ history.freed) {layout : Stack.Layout} {base : Nat}
    (hplacement : thread.placement? = some (layout, base)) :
    ∃ transition ∈ history, transition.Provides thread.id layout base := by
  induction hrun using Run.induction generalizing thread with
  | start => simp [Scheduler.held_start, History.freed] at hthread
  | @step history before k action next tallies events run hconsistent hstep longer ih =>
    have earlier {old : Thread} (hold : old ∈ before.held ++ history.freed)
        (hid : old.id = thread.id) (hsame : old.placement? = some (layout, base)) :
        ∃ transition ∈ history ++ [⟨before, k, action, before.putView k next tallies, events⟩],
          transition.Provides thread.id layout base := by
      obtain ⟨transition, hmem, hprovides⟩ := ih hold hsame
      rw [hid] at hprovides
      exact ⟨transition, List.mem_append_left _ hmem, hprovides⟩
    have hplace : thread ∈ history.freed ∨ thread ∈ (before.putView k next tallies).held ∨
        thread ∈ (before.kernel k).freedBy action := by
      rw [History.freed_append, List.mem_append, List.mem_append] at hthread
      exact or_left_comm.1 hthread
    rcases hplace with hfreed | hnow
    · exact earlier (List.mem_append_right _ hfreed) rfl hplacement
    · rcases run.placement_cases hstep longer hnow hplacement with
        ⟨old, hold, hid, hsame⟩ | hprovides
      · exact earlier (List.mem_append_left _ hold) hid hsame
      · exact ⟨_, List.mem_append_right _ (List.mem_singleton_self _), hprovides⟩

/-- A configuration that was read from variables or has initialized a kernel thread is accepted.
With one that is accepted, no length that a stack is computed from leaves the words, and on memory
that is granted every thread can be made, with its first frame at the top of the stack and nothing
else on it. A spawn on an initialized kernel thread does so. A kernel thread keeps the bootstrap
thread and the configuration of the first request that has initialized it, and whatever thread has a
stack got it from a spawn, by the configuration of the kernel thread that has carried it out. -/
theorem stacks_provided (hrun : Run history scheduler) :
    (∀ lookup config, Config.read lookup = .ok config → config.validate = .ok ()) ∧
      (∀ k, scheduler.isInitialized k = true → (scheduler.kernel k).config.validate = .ok ()) ∧
      (∀ config : Config, config.validate = .ok () →
        config.stackSize + (pageSize - 1) < UInt64.size ∧ config.reservation < UInt64.size ∧
          ∀ (map : Mapper) (base : Nat), map.Grants config.reservation base →
            ∀ id entry argument, ∃ stack fresh own,
              Stack.reserve? map config.stackSize config.guardPage = some stack ∧
                Thread.create? id stack entry argument = some fresh ∧
                fresh.Furnished own config base entry argument) ∧
      (∀ k, (scheduler.kernel k).stage = .user → scheduler.isInitialized k = true →
        ∀ (map : Mapper) (base : Nat), map.Grants (scheduler.kernel k).config.reservation base →
          ∀ entry argument, ∃ next fresh own,
            scheduler.submit k (.spawn entry argument map) =
                .ok (next, [.created scheduler.nextId]) ∧
              (next.kernel k).stage = .enqueue fresh ∧ fresh.id = scheduler.nextId ∧
              fresh.Furnished own (scheduler.kernel k).config base entry argument) ∧
      (∀ transition ∈ history, ∀ k home, (transition.before.kernel k).home = some home →
        (scheduler.kernel k).home = some home ∧
          (scheduler.kernel k).config = (transition.before.kernel k).config) ∧
      (∀ transition ∈ history, ∀ id, .bootstrapped id ∈ transition.events →
        ∃ config, transition.action = .submit (.attach config) ∧ config.validate = .ok () ∧
          (transition.before.kernel transition.kernel).home = none ∧
          (scheduler.kernel transition.kernel).home = some id ∧
          (scheduler.kernel transition.kernel).config = config) ∧
      ∀ thread ∈ scheduler.held ++ history.freed, ∀ stack, thread.stack = some stack →
        ∃ transition ∈ history, transition.Provides thread.id stack.layout stack.base := by
  have valid (k : Fin count) (hinitialized : scheduler.isInitialized k = true) :
      (scheduler.kernel k).config.validate = .ok () :=
    (hrun.consistent.sound k).configured hinitialized
  refine ⟨fun _ _ => Config.validate_of_read, valid, ?_, ?_, ?_, ?_, ?_⟩
  · intro config hvalid
    refine ⟨Config.padded_lt_of_valid hvalid, Config.reservation_lt_of_valid hvalid, ?_⟩
    intro map base hgrants id entry argument
    exact Thread.exists_furnished hvalid hgrants id entry argument
  · intro k huser hinitialized map base hgrants entry argument
    obtain ⟨home, hhome⟩ := Option.isSome_iff_exists.1 hinitialized
    obtain ⟨stack, made, own, hreserve, hmade, hfurnished⟩ :=
      Thread.exists_furnished (valid k hinitialized) hgrants scheduler.nextId entry argument
    obtain ⟨fresh, hcreate, hid, -, -, -, -, hsubmit⟩ :=
      Scheduler.submit_spawn (hrun.consistent.sound k) hhome hreserve entry argument
    cases hmade.symm.trans hcreate
    refine ⟨_, made, own, hsubmit, ?_, hid, hfurnished⟩
    rw [Scheduler.kernel_putView_self]
    rfl
  · intro transition hmem k home
    exact hrun.settings_of_some hmem
  · intro transition hmem id
    exact hrun.settings_of_bootstrapped hmem
  · intro thread hthread stack hstack
    exact hrun.exists_provides hthread (by rw [Thread.placement?, hstack]; rfl)

/-- A thread that was spawned on one kernel thread spawns another one after it has moved to a second
kernel thread, whose configuration the new stack has. -/
theorem stacks_provided_migrated :
    ∃ (history : History 2) (scheduler : Scheduler 2) (thread : Thread) (stack : Stack),
      Run history scheduler ∧ thread ∈ scheduler.held ∧ thread.id = 4 ∧
        thread.stack = some stack ∧ stack.isGuarded = true ∧ stack.size = 65536 ∧
        (scheduler.kernel 0).config = ⟨16384, false⟩ ∧
        ∃ transition ∈ history, transition.Provides 4 stack.layout stack.base ∧
          transition.kernel = 1 ∧ transition.before.currentId? 1 = some 3 ∧
          ∃ earlier ∈ history, .created 3 ∈ earlier.events ∧ earlier.kernel = 0 := by
  obtain ⟨history, scheduler, hrun, hzero, hone, hcurrent, hspawner, hearlier⟩ :=
    Run.exists_of_replay?
      (Request.script (.attach ⟨16384, false⟩) 0 0 ++ Request.script (.attach ⟨65536, true⟩) 1 0 ++
        Request.script (.spawn 7 8 (Mapper.placing 0x10000000)) 0 8 ++
        Request.script (.yield false) 0 7 ++ Request.script (.yield false) 1 7 ++
        Request.script (.spawn 9 1 (Mapper.placing 0x20000000)) 1 8)
      (fun (history : History 2) scheduler =>
        (scheduler.kernel 0).config = ⟨16384, false⟩ ∧
          (scheduler.kernel 1).config = ⟨65536, true⟩ ∧
          (scheduler.current? 1).map (fun thread => (thread.id, thread.isBootstrap)) =
            some (4, false) ∧
          (∀ transition ∈ history, .created 4 ∈ transition.events →
            transition.kernel = 1 ∧ transition.before.currentId? 1 = some 3 ∧
              (transition.before.kernel 1).home.isSome = true) ∧
          ∃ earlier ∈ history, .created 3 ∈ earlier.events ∧ earlier.kernel = 0)
      (by decide +kernel)
  obtain ⟨-, -, -, -, hsettings, -, hprovided⟩ := hrun.stacks_provided
  obtain ⟨thread, hthread, hpair⟩ := Option.map_eq_some_iff.1 hcurrent
  obtain ⟨hid, hspawned⟩ := Prod.mk.inj hpair
  have hheld := Scheduler.mem_held_of_current? hthread
  have hsome : thread.stack.isSome = true := by simpa [Thread.isBootstrap] using hspawned
  obtain ⟨stack, hstack⟩ := Option.isSome_iff_exists.1 hsome
  obtain ⟨transition, hmem, hprovides⟩ :=
    hprovided thread (List.mem_append_left _ hheld) stack hstack
  rw [hid] at hprovides
  have hlayout := hprovides.layout_eq
  obtain ⟨hkernel, hcaller, hinitialized⟩ := hspawner transition hmem hprovides.created
  obtain ⟨home, hhome⟩ := Option.isSome_iff_exists.1 hinitialized
  have hconfig := (hsettings transition hmem 1 home hhome).2
  rw [hkernel, ← hconfig, hone] at hlayout
  obtain ⟨hsize, hguard⟩ := Stack.Layout.of?_eq_some_iff.1 hlayout
  refine ⟨history, scheduler, thread, stack, hrun, hheld, hid, hstack, ?_, hsize, hzero,
    transition, hmem, hprovides, hkernel, hcaller, hearlier⟩
  rw [Stack.isGuarded, hguard]
  rfl

end Run

end GreenThreads
