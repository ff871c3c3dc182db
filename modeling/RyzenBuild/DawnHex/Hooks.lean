import RyzenBuild.Lib.IntrusiveList
import RyzenBuild.DawnHex.Readers

/-!
The hooks that other modules register for pulses. Their list is linked through
the hooks themselves; a hook is called by walking that list with the lock held.
-/
namespace RyzenBuild.DuoHooks

open DawnHex Kernel IntrusiveList

/-- What is read of a `struct dawnhex_duo_hook` beside its links: whether it has
a function, and its name. -/
structure HookFields where
  fn : Bool
  name : Option (List UInt8)

/-- The cluster and the links of `g_dawnhex.duo.hooks`, those in the hooks included. -/
structure Module (Hook : Type) where
  cluster : State
  hooks : Links Hook

section Source

variable {Hook : Type} [DecidableEq Hook] (fields : Hook → HookFields)

/-- `none` is the null pointer. -/
def dawnhexDuoHookRegister (m : Module Hook) : Option Hook → Module Hook × Option Errno
  | none => (m, some .einval)
  | some hook =>
      match fields hook with
      | ⟨true, some name⟩ =>
          ({ cluster := dhEmitEventLocked m.cluster (text "duo_hook_register name=" ++ name)
             hooks := listAddTail m.hooks (.entry hook) }, none)
      | _ => (m, some .einval)

def dawnhexDuoHookUnregister (m : Module Hook) : Option Hook → Module Hook
  | none => m
  | some hook =>
      { cluster := dhEmitEventLocked m.cluster
          (text "duo_hook_unregister name=" ++ (fields hook).name.getD (text "unknown"))
        hooks := listDelInit m.hooks (.entry hook) }

/-- The hooks that are called, if the walk ends within `fuel` cells. -/
def dhDuoEmitHooks (m : Module Hook) (fuel : Nat) : Option (List Hook) :=
  (visit m.hooks fuel (m.hooks.next .head)).map fun met => met.filter fun hook => (fields hook).fn

end Source

inductive Call (Hook : Type) where
  | register (hook : Hook)
  | unregister (hook : Hook)

/-- `registered` and `known` are history: the hooks registered now, in the order
of the registration that counts, and those registered at some time. -/
structure Registry (Hook : Type) where
  module : Module Hook
  registered : List Hook
  known : List Hook

section Runs

variable {Hook : Type} [DecidableEq Hook] (fields : Hook → HookFields)

/-- The links of the hooks are what they are before `INIT_LIST_HEAD`. -/
def Registry.start (cluster : State) (links : Links Hook) : Registry Hook :=
  ⟨⟨cluster, initListHead links .head⟩, [], []⟩

def Registry.step (r : Registry Hook) : Call Hook → Registry Hook
  | .register hook =>
      { module := (dawnhexDuoHookRegister fields r.module (some hook)).1
        registered := if hook ∈ r.registered then r.registered else r.registered ++ [hook]
        known := hook :: r.known }
  | .unregister hook =>
      { module := dawnhexDuoHookUnregister fields r.module (some hook)
        registered := r.registered.erase hook
        known := r.known }

def Valid (hook : Hook) : Prop := (fields hook).fn = true ∧ (fields hook).name.isSome

/-- Any valid hook may be registered, and unregistered once it has been. -/
def Allowed (r : Registry Hook) : Call Hook → Prop
  | .register hook => Valid fields hook
  | .unregister hook => hook ∈ r.known

/-- No hook is registered while it is registered. -/
def Fresh (r : Registry Hook) : Call Hook → Prop
  | .register hook => hook ∉ r.registered
  | .unregister _ => True

/-- An emission ends and calls the registered hooks, each once and in their order. -/
def EmitsEach (r : Registry Hook) : Prop :=
  ∃ fuel, dhDuoEmitHooks fields r.module fuel = some r.registered

structure Sound (r : Registry Hook) : Prop where
  linked : Linked r.module.hooks r.registered
  loose : ∀ hook ∈ r.known, hook ∉ r.registered → Loose r.module.hooks hook
  callable : ∀ hook ∈ r.registered, (fields hook).fn = true

theorem register_valid (m : Module Hook) (hook : Hook) (valid : Valid fields hook) :
    (dawnhexDuoHookRegister fields m (some hook)).1.hooks = listAddTail m.hooks (.entry hook) := by
  obtain ⟨fn, named⟩ := valid
  obtain ⟨name, same⟩ := Option.isSome_iff_exists.mp named
  have whole : fields hook = ⟨true, some name⟩ := by
    rw [← fn, ← same]
  simp only [dawnhexDuoHookRegister, whole]

theorem sound_start (cluster : State) (links : Links Hook) :
    Sound fields (Registry.start cluster links) where
  linked := linked_init links
  loose := fun _ member => absurd member List.not_mem_nil
  callable := fun _ member => absurd member List.not_mem_nil

omit [DecidableEq Hook] in
theorem emits_of_sound (r : Registry Hook) (sound : Sound fields r) : EmitsEach fields r := by
  refine ⟨r.registered.length + 1, ?_⟩
  rw [dhDuoEmitHooks, visit_linked _ _ sound.linked, Option.map_some,
    List.filter_eq_self.mpr sound.callable]

theorem sound_register (r : Registry Hook) (hook : Hook) (sound : Sound fields r)
    (valid : Valid fields hook) (fresh : hook ∉ r.registered) :
    Sound fields (r.step fields (.register hook)) := by
  have links := register_valid fields r.module hook valid
  constructor
  · simp only [Registry.step, links, if_neg fresh]
    exact linked_add _ _ hook sound.linked fresh
  · intro other member outside
    simp only [Registry.step, links, if_neg fresh, List.mem_append, List.mem_singleton, not_or]
      at member outside ⊢
    have known := (List.mem_cons.mp member).resolve_left outside.2
    exact loose_add _ _ hook other sound.linked (sound.loose other known outside.1) outside.1
      outside.2
  · intro other member
    simp only [Registry.step, if_neg fresh, List.mem_append, List.mem_singleton] at member
    rcases member with old | rfl
    · exact sound.callable other old
    · exact valid.1

theorem sound_unregister (r : Registry Hook) (hook : Hook) (sound : Sound fields r)
    (known : hook ∈ r.known) : Sound fields (r.step fields (.unregister hook)) := by
  by_cases inside : hook ∈ r.registered
  · constructor
    · exact linked_del _ _ hook sound.linked inside
    · intro other member outside
      by_cases same : other = hook
      · exact same ▸ loose_del_self _ other
      · have before : other ∉ r.registered := fun there =>
          outside ((List.mem_erase_of_ne same).mpr there)
        exact loose_del_other _ _ hook other sound.linked inside
          (sound.loose other member before) same
    · exact fun other member => sound.callable other (List.mem_of_mem_erase member)
  · have links := loose_del _ hook (sound.loose hook known inside)
    have kept : r.registered.erase hook = r.registered := List.erase_of_not_mem inside
    constructor
    · simp only [Registry.step, dawnhexDuoHookUnregister, links, kept]
      exact sound.linked
    · simp only [Registry.step, dawnhexDuoHookUnregister, links, kept]
      exact sound.loose
    · simp only [Registry.step, kept]
      exact sound.callable

theorem sound_step (r : Registry Hook) (call : Call Hook) (sound : Sound fields r)
    (allowed : Allowed fields r call) (fresh : Fresh r call) :
    Sound fields (r.step fields call) := by
  cases call with
  | register hook => exact sound_register fields r hook sound allowed fresh
  | unregister hook => exact sound_unregister fields r hook sound allowed

/-- A second registration shows in the next emission. -/
theorem fresh_of_emits (r : Registry Hook) (call : Call Hook) (sound : Sound fields r)
    (allowed : Allowed fields r call) (emits : EmitsEach fields (r.step fields call)) :
    Fresh r call := by
  cases call with
  | unregister hook => trivial
  | register hook =>
      intro inside
      obtain ⟨fuel, called⟩ := emits
      simp only [dhDuoEmitHooks, Registry.step, register_valid fields r.module hook allowed,
        if_pos inside] at called
      obtain ⟨seen, ends, whole⟩ := Option.map_eq_some_iff.mp called
      obtain ⟨missed, some_missed, parts⟩ :=
        visit_added_twice _ _ seen hook sound.linked inside fuel ends
      have most := List.length_filter_le (fun hook => (fields hook).fn) seen
      have lost := List.length_pos_iff.mpr some_missed
      rw [whole, parts, List.length_append] at most
      omega

/-- Over every sequence of allowed calls, each emission ends and calls every
registered hook once and in order exactly if no call registers a hook that is
registered already. -/
theorem hooks_emitted_iff (cluster : State) (links : Links Hook) (calls : List (Call Hook))
    (within : Trace.Steps (Registry.step fields) (Allowed fields) (Registry.start cluster links)
      calls) :
    Trace.Always (Registry.step fields) (EmitsEach fields) (Registry.start cluster links) calls ↔
      Trace.Steps (Registry.step fields) Fresh (Registry.start cluster links) calls :=
  Trace.always_iff_guarded _ (Allowed fields) Fresh (Sound fields) (EmitsEach fields)
    (emits_of_sound fields) (sound_step fields) (fresh_of_emits fields) _ calls
    (sound_start fields cluster links) within

end Runs

def probe : Nat → HookFields := fun _ => ⟨true, some (text "probe")⟩

def unlinked : Links Nat := ⟨fun _ => .head, fun _ => .head⟩

/-- Two hooks, one of them taken out twice and put back behind the other. -/
theorem hook_put_back :
    Trace.Always (Registry.step probe) (EmitsEach probe) (Registry.start dawnhexInit unlinked)
      [.register 0, .register 1, .unregister 0, .unregister 0, .register 0] := by
  have within : Trace.Steps (Registry.step probe) (Allowed probe)
      (Registry.start dawnhexInit unlinked)
      [.register 0, .register 1, .unregister 0, .unregister 0, .register 0] := by
    simp [Trace.Steps, Allowed, Valid, probe, Registry.step]
  apply (hooks_emitted_iff probe dawnhexInit unlinked _ within).mpr
  simp [Trace.Steps, Fresh, Registry.step, Registry.start]

def registeredTwice : Registry Nat :=
  Trace.run (Registry.step probe) (Registry.start dawnhexInit unlinked) [.register 0, .register 0]

/-- One hook registered twice leads to itself, and an emission stays at it. -/
theorem emission_never_ends :
    (∀ fuel, dhDuoEmitHooks probe registeredTwice.module fuel = none) ∧
      Trace.Steps (Registry.step probe) (Allowed probe) (Registry.start dawnhexInit unlinked)
        [.register 0, .register 0] ∧
      ¬Trace.Always (Registry.step probe) (EmitsEach probe) (Registry.start dawnhexInit unlinked)
        [.register 0, .register 0] := by
  have endless : ∀ fuel, dhDuoEmitHooks probe registeredTwice.module fuel = none := by
    intro fuel
    have first : registeredTwice.module.hooks.next .head = .entry 0 := rfl
    have circles : registeredTwice.module.hooks.next (.entry 0) = .entry 0 := rfl
    rw [dhDuoEmitHooks, first, visit_circles _ 0 circles]
    rfl
  refine ⟨endless, by simp [Trace.Steps, Allowed, Valid, probe], ?_⟩
  intro always
  obtain ⟨fuel, called⟩ := Trace.always_final _ (EmitsEach probe) _ _ always
  exact Option.some_ne_none _ (called.symm.trans (endless fuel))

end RyzenBuild.DuoHooks
