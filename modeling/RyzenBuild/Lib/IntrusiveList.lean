import Mathlib.Data.List.Nodup

/-!
Circular doubly linked lists whose links lie in the entries themselves. The
operations write the links of the cells they meet, whatever these hold; a list
is well formed where a segment leads from the head through its entries and back.
-/
namespace RyzenBuild.IntrusiveList

variable {Entry : Type}

inductive Cell (Entry : Type) where
  | head
  | entry (e : Entry)
  deriving DecidableEq, Repr

structure Links (Entry : Type) where
  next : Cell Entry → Cell Entry
  prev : Cell Entry → Cell Entry

/-- The entries met from a cell on until the head, if `fuel` cells suffice. -/
def visit (l : Links Entry) : Nat → Cell Entry → Option (List Entry)
  | 0, _ => none
  | _ + 1, .head => some []
  | fuel + 1, .entry e => (visit l fuel (l.next (.entry e))).map (e :: ·)

def Joined (l : Links Entry) (a b : Cell Entry) : Prop := l.next a = b ∧ l.prev b = a

/-- The links lead from `a` through the entries to `b`, and back. -/
def Segment (l : Links Entry) (a : Cell Entry) : List Entry → Cell Entry → Prop
  | [], b => Joined l a b
  | e :: rest, b => Joined l a (.entry e) ∧ Segment l (.entry e) rest b

structure Linked (l : Links Entry) (entries : List Entry) : Prop where
  ring : Segment l .head entries .head
  distinct : entries.Nodup

/-- The links of an entry in no list, after it was taken out of one. -/
def Loose (l : Links Entry) (e : Entry) : Prop :=
  l.next (.entry e) = .entry e ∧ l.prev (.entry e) = .entry e

theorem segment_append (l : Links Entry) (a b : Cell Entry) (e : Entry)
    (front back : List Entry) :
    Segment l a (front ++ e :: back) b ↔
      Segment l a front (.entry e) ∧ Segment l (.entry e) back b := by
  induction front generalizing a with
  | nil => exact Iff.rfl
  | cons first rest ih => rw [List.cons_append, Segment, Segment, ih, and_assoc]

/-- A segment depends on the forward links of all its cells but the last and on
the backward links of all but the first. -/
theorem segment_frame (l m : Links Entry) (a b : Cell Entry) (entries : List Entry)
    (forward : m.next a = l.next a ∧ ∀ e ∈ entries, m.next (.entry e) = l.next (.entry e))
    (backward : m.prev b = l.prev b ∧ ∀ e ∈ entries, m.prev (.entry e) = l.prev (.entry e))
    (segment : Segment l a entries b) : Segment m a entries b := by
  induction entries generalizing a with
  | nil => exact ⟨forward.1.trans segment.1, backward.1.trans segment.2⟩
  | cons e rest ih =>
      obtain ⟨⟨out, back⟩, later⟩ := segment
      refine ⟨⟨forward.1.trans out, (backward.2 e List.mem_cons_self).trans back⟩, ?_⟩
      apply ih (.entry e) _ _ later
      · refine ⟨forward.2 e List.mem_cons_self, ?_⟩
        exact fun x member => forward.2 x (List.mem_cons_of_mem e member)
      · refine ⟨backward.1, ?_⟩
        exact fun x member => backward.2 x (List.mem_cons_of_mem e member)

/-- The cell in front of the end is the last one of the segment. -/
theorem segment_last (l : Links Entry) (a b : Cell Entry) (entries : List Entry)
    (segment : Segment l a entries b) :
    l.prev b = a ∧ entries = [] ∨ ∃ e ∈ entries, l.prev b = .entry e := by
  induction entries generalizing a with
  | nil => exact Or.inl ⟨segment.2, rfl⟩
  | cons e rest ih =>
      right
      rcases ih (.entry e) segment.2 with ⟨last, _⟩ | ⟨x, member, last⟩
      · exact ⟨e, List.mem_cons_self, last⟩
      · exact ⟨x, List.mem_cons_of_mem e member, last⟩

theorem segment_closes (l : Links Entry) (a b : Cell Entry) (entries : List Entry)
    (segment : Segment l a entries b) : l.next (l.prev b) = b := by
  induction entries generalizing a with
  | nil => exact segment.2.symm ▸ segment.1
  | cons e rest ih => exact ih (.entry e) segment.2

/-- The links of an entry of a list and of its neighbours agree. -/
theorem linked_joined (l : Links Entry) (entries : List Entry) (e : Entry)
    (linked : Linked l entries) (inside : e ∈ entries) :
    l.prev (l.next (.entry e)) = .entry e ∧ l.next (l.prev (.entry e)) = .entry e := by
  obtain ⟨front, back, rfl⟩ := List.append_of_mem inside
  obtain ⟨before, after⟩ := (segment_append l _ _ e front back).mp linked.ring
  refine ⟨?_, segment_closes l _ _ front before⟩
  cases back with
  | nil => exact after.1.symm ▸ after.2
  | cons y ys => exact after.1.1.symm ▸ after.1.2

/-- Another end behind the last cell of a segment. -/
theorem segment_retarget (l m : Links Entry) (a b c : Cell Entry) (entries : List Entry)
    (apart : a ∉ entries.map Cell.entry) (distinct : entries.Nodup)
    (forward : ∀ x, x ∈ a :: entries.map Cell.entry → x ≠ l.prev b → m.next x = l.next x)
    (backward : ∀ e ∈ entries, m.prev (.entry e) = l.prev (.entry e))
    (joined : Joined m (l.prev b) c)
    (segment : Segment l a entries b) : Segment m a entries c := by
  induction entries generalizing a with
  | nil =>
      have last : l.prev b = a := segment.2
      exact last ▸ joined
  | cons e rest ih =>
      obtain ⟨⟨out, back⟩, later⟩ := segment
      have inner : l.prev b ≠ a := by
        rintro same
        rcases segment_last l _ b rest later with ⟨last, _⟩ | ⟨x, member, last⟩
        · exact apart (by simp [← same, last])
        · exact apart (by simp [← same, last, member])
      have front : m.next a = l.next a := forward a List.mem_cons_self (Ne.symm inner)
      refine ⟨⟨front.trans out, (backward e List.mem_cons_self).trans back⟩, ?_⟩
      apply ih (.entry e)
      · simpa using (List.nodup_cons.mp distinct).1
      · exact (List.nodup_cons.mp distinct).2
      · intro x member
        exact forward x (List.mem_cons_of_mem a member)
      · intro x member
        exact backward x (List.mem_cons_of_mem e member)
      · exact later

/-- The forward links lead from `a` through the entries to `b`. -/
def Leads (l : Links Entry) (a : Cell Entry) : List Entry → Cell Entry → Prop
  | [], b => l.next a = b
  | e :: rest, b => l.next a = .entry e ∧ Leads l (.entry e) rest b

theorem segment_leads (l : Links Entry) (a b : Cell Entry) (entries : List Entry)
    (segment : Segment l a entries b) : Leads l a entries b := by
  induction entries generalizing a with
  | nil => exact segment.1
  | cons e rest ih => exact ⟨segment.1.1, ih (.entry e) segment.2⟩

theorem leads_frame (l m : Links Entry) (a b : Cell Entry) (entries : List Entry)
    (forward : m.next a = l.next a ∧ ∀ e ∈ entries, m.next (.entry e) = l.next (.entry e))
    (leads : Leads l a entries b) : Leads m a entries b := by
  induction entries generalizing a with
  | nil => exact forward.1.trans leads
  | cons e rest ih =>
      refine ⟨forward.1.trans leads.1, ih (.entry e) ?_ leads.2⟩
      exact ⟨forward.2 e List.mem_cons_self,
        fun x member => forward.2 x (List.mem_cons_of_mem e member)⟩

/-- A walk that ends has met the entries on its way, and ends from there on too. -/
theorem visit_leads (l : Links Entry) (a b : Cell Entry) (entries seen : List Entry) (fuel : Nat)
    (leads : Leads l a entries b) (ends : visit l fuel (l.next a) = some seen) :
    ∃ left later, visit l left b = some later ∧ seen = entries ++ later := by
  induction entries generalizing a seen fuel with
  | nil =>
      have here : l.next a = b := leads
      exact ⟨fuel, seen, here ▸ ends, rfl⟩
  | cons e rest ih =>
      rw [leads.1] at ends
      cases fuel with
      | zero => cases ends
      | succ fuel =>
          obtain ⟨met, after, rfl⟩ := Option.map_eq_some_iff.mp ends
          obtain ⟨left, later, done, rfl⟩ := ih (.entry e) met fuel leads.2 after
          exact ⟨left, later, done, rfl⟩

theorem visit_all (l : Links Entry) (a : Cell Entry) (entries : List Entry)
    (leads : Leads l a entries .head) :
    visit l (entries.length + 1) (l.next a) = some entries := by
  induction entries generalizing a with
  | nil =>
      have here : l.next a = .head := leads
      rw [here]
      rfl
  | cons e rest ih =>
      rw [leads.1, List.length_cons, visit, ih (.entry e) leads.2]
      rfl

theorem visit_linked (l : Links Entry) (entries : List Entry) (linked : Linked l entries) :
    visit l (entries.length + 1) (l.next .head) = some entries :=
  visit_all l .head entries (segment_leads l _ _ _ linked.ring)

/-- From an entry that leads to itself there is no way back to the head. -/
theorem visit_circles (l : Links Entry) (e : Entry) (circles : l.next (.entry e) = .entry e)
    (fuel : Nat) : visit l fuel (.entry e) = none := by
  induction fuel with
  | zero => rfl
  | succ fuel ih => rw [visit, circles, ih]; rfl

/-- The cell in front of the end of a segment from the head is none of the others. -/
theorem last_outside (l : Links Entry) (b : Cell Entry) (entries : List Entry) (e : Entry)
    (segment : Segment l .head entries b) (outside : e ∉ entries) : l.prev b ≠ .entry e := by
  intro same
  rcases segment_last l _ _ entries segment with ⟨last, _⟩ | ⟨x, member, last⟩
  · cases last.symm.trans same
  · cases last.symm.trans same
    exact outside member

section Operations

variable [DecidableEq Entry]

def Links.setNext (l : Links Entry) (cell target : Cell Entry) : Links Entry :=
  { l with next := fun c => if c = cell then target else l.next c }

def Links.setPrev (l : Links Entry) (cell target : Cell Entry) : Links Entry :=
  { l with prev := fun c => if c = cell then target else l.prev c }

/-- Both links of a cell lead to itself. -/
def initListHead (l : Links Entry) (cell : Cell Entry) : Links Entry :=
  (l.setNext cell cell).setPrev cell cell

/-- The old last cell is read before the first link is written. -/
def listAddTail (l : Links Entry) (new : Cell Entry) : Links Entry :=
  let last := l.prev .head
  (((l.setPrev .head new).setNext new .head).setPrev new last).setNext last new

def listDelInit (l : Links Entry) (cell : Cell Entry) : Links Entry :=
  let before := l.prev cell
  let after := l.next cell
  initListHead ((l.setPrev after before).setNext before after) cell

variable (l : Links Entry)

theorem listAddTail_next (new c : Cell Entry) :
    (listAddTail l new).next c =
      if c = l.prev .head then new else if c = new then .head else l.next c := rfl

theorem listAddTail_prev (new c : Cell Entry) :
    (listAddTail l new).prev c =
      if c = new then l.prev .head else if c = .head then new else l.prev c := rfl

theorem listDelInit_next (cell c : Cell Entry) :
    (listDelInit l cell).next c =
      if c = cell then cell else if c = l.prev cell then l.next cell else l.next c := rfl

theorem listDelInit_prev (cell c : Cell Entry) :
    (listDelInit l cell).prev c =
      if c = cell then cell else if c = l.next cell then l.prev cell else l.prev c := rfl

theorem linked_init : Linked (initListHead l .head) [] where
  ring := by simp [Segment, Joined, initListHead, Links.setNext, Links.setPrev]
  distinct := List.nodup_nil

/-- Adding an entry that is not in the list puts it last. -/
theorem linked_add (entries : List Entry) (new : Entry) (linked : Linked l entries)
    (outside : new ∉ entries) : Linked (listAddTail l (.entry new)) (entries ++ [new]) where
  ring := by
    have last := last_outside l .head entries new linked.ring outside
    rw [segment_append]
    constructor
    · apply segment_retarget l _ .head .head (.entry new) entries (by simp) linked.distinct
      · intro x member inner
        have other : x ≠ .entry new := by
          rintro rfl
          simp [outside] at member
        rw [listAddTail_next, if_neg inner, if_neg other]
      · intro e member
        have other : e ≠ new := fun same => outside (same ▸ member)
        simp [listAddTail_prev, other]
      · exact ⟨if_pos rfl, if_pos rfl⟩
      · exact linked.ring
    · constructor
      · rw [listAddTail_next, if_neg (Ne.symm last), if_pos rfl]
      · simp [listAddTail_prev]
  distinct := by
    rw [List.nodup_append_comm]
    exact List.nodup_cons.mpr ⟨outside, linked.distinct⟩

/-- The part in front of an entry that is taken out leads to what was behind it. -/
theorem segment_del (front : List Entry) (old : Entry) (distinct : front.Nodup)
    (outside : old ∉ front) (next_apart : ∀ e ∈ old :: front, l.next (.entry old) ≠ .entry e)
    (segment : Segment l .head front (.entry old)) :
    Segment (listDelInit l (.entry old)) .head front (l.next (.entry old)) := by
  have before := last_outside l (.entry old) front old segment outside
  apply segment_retarget l _ .head (.entry old) _ front (by simp) distinct
  · intro x member inner
    have other : x ≠ .entry old := by
      rintro rfl
      simp [outside] at member
    rw [listDelInit_next, if_neg other, if_neg inner]
  · intro e member
    have other : e ≠ old := fun same => outside (same ▸ member)
    have apart := next_apart e (List.mem_cons_of_mem old member)
    rw [listDelInit_prev, if_neg (by simp [other]), if_neg (Ne.symm apart)]
  · constructor
    · rw [listDelInit_next, if_neg before, if_pos rfl]
    · rw [listDelInit_prev, if_neg (next_apart old List.mem_cons_self), if_pos rfl]
  · exact segment

/-- Taking an entry out closes the gap. -/
theorem linked_del (entries : List Entry) (old : Entry) (linked : Linked l entries)
    (inside : old ∈ entries) : Linked (listDelInit l (.entry old)) (entries.erase old) where
  ring := by
    obtain ⟨front, back, rfl⟩ := List.append_of_mem inside
    obtain ⟨before, after⟩ := (segment_append l _ _ old front back).mp linked.ring
    obtain ⟨distinct, later, apart⟩ := List.nodup_append.mp linked.distinct
    obtain ⟨once, rest⟩ := List.nodup_cons.mp later
    have outside : old ∉ front := fun member => apart old member old List.mem_cons_self rfl
    rw [List.erase_append_right _ outside, List.erase_cons_head]
    cases back with
    | nil =>
        have next : l.next (.entry old) = .head := after.1
        have closed := segment_del l front old distinct outside (by simp [next]) before
        rwa [next, ← List.append_nil front] at closed
    | cons y ys =>
        have next : l.next (.entry old) = .entry y := after.1.1
        have closed := segment_del l front old distinct outside (by
          intro e member same
          obtain rfl : y = e := Cell.entry.inj (next.symm.trans same)
          rcases List.mem_cons.mp member with rfl | member
          · exact once List.mem_cons_self
          · exact apart y member y (List.mem_cons_of_mem old List.mem_cons_self) rfl) before
        rw [next] at closed
        rw [segment_append]
        refine ⟨closed, ?_⟩
        have kept : ∀ e ∈ y :: ys, (listDelInit l (.entry old)).next (.entry e) =
            l.next (.entry e) := by
          intro e member
          have other : e ≠ old := fun same => once (same ▸ member)
          have behind : l.prev (.entry old) ≠ .entry e :=
            last_outside l _ front e before fun early =>
              apart e early e (List.mem_cons_of_mem old member) rfl
          rw [listDelInit_next, if_neg (by simp [other]), if_neg (Ne.symm behind)]
        apply segment_frame l _ _ _ ys ⟨kept y List.mem_cons_self, fun e member =>
          kept e (List.mem_cons_of_mem y member)⟩ _ after.2
        refine ⟨by simp [listDelInit_prev, next], ?_⟩
        intro e member
        have other : e ≠ old := fun same => once (List.mem_cons_of_mem y (same ▸ member))
        have further : e ≠ y := fun same => (List.nodup_cons.mp rest).1 (same ▸ member)
        simp [listDelInit_prev, next, other, further]
  distinct := linked.distinct.erase old

/-- An entry that is in no list stays out of the way when another is added. -/
theorem loose_add (entries : List Entry) (new e : Entry) (linked : Linked l entries)
    (loose : Loose l e) (outside : e ∉ entries) (other : e ≠ new) :
    Loose (listAddTail l (.entry new)) e := by
  have last := last_outside l .head entries e linked.ring outside
  constructor
  · rw [listAddTail_next, if_neg (Ne.symm last), if_neg (by simp [other]), loose.1]
  · rw [listAddTail_prev, if_neg (by simp [other]), if_neg (by simp), loose.2]

/-- The same when another is taken out: no cell of the list leads to it. -/
theorem loose_del_other (entries : List Entry) (old e : Entry) (linked : Linked l entries)
    (inside : old ∈ entries) (loose : Loose l e) (other : e ≠ old) :
    Loose (listDelInit l (.entry old)) e := by
  obtain ⟨after, before⟩ := linked_joined l entries old linked inside
  have not_next : .entry e ≠ l.next (.entry old) := by
    intro same
    rw [← same, loose.2] at after
    exact other (Cell.entry.inj after)
  have not_prev : .entry e ≠ l.prev (.entry old) := by
    intro same
    rw [← same, loose.1] at before
    exact other (Cell.entry.inj before)
  constructor
  · rw [listDelInit_next, if_neg (by simp [other]), if_neg not_prev, loose.1]
  · rw [listDelInit_prev, if_neg (by simp [other]), if_neg not_next, loose.2]

theorem loose_del_self (e : Entry) : Loose (listDelInit l (.entry e)) e :=
  ⟨if_pos rfl, if_pos rfl⟩

/-- Taking out what is in no list changes nothing. -/
theorem loose_del (e : Entry) (loose : Loose l e) : listDelInit l (.entry e) = l := by
  have next : (listDelInit l (.entry e)).next = l.next := by
    funext c
    rw [listDelInit_next, loose.1, loose.2]
    split
    · next here => rw [here, loose.1]
    · rfl
  have prev : (listDelInit l (.entry e)).prev = l.prev := by
    funext c
    rw [listDelInit_prev, loose.1, loose.2]
    split
    · next here => rw [here, loose.2]
    · rfl
  exact congrArg₂ Links.mk next prev

/-- Adding an entry a second time spoils the walk: it never ends if the entry
was the last one, and misses what was behind the entry otherwise. -/
theorem visit_added_twice (entries seen : List Entry) (e : Entry) (linked : Linked l entries)
    (inside : e ∈ entries) (fuel : Nat)
    (ends : visit (listAddTail l (.entry e)) fuel ((listAddTail l (.entry e)).next .head) =
      some seen) : ∃ missed, missed ≠ [] ∧ entries = seen ++ missed := by
  obtain ⟨front, back, rfl⟩ := List.append_of_mem inside
  obtain ⟨before, after⟩ := (segment_append l _ _ e front back).mp linked.ring
  obtain ⟨_, _, apart⟩ := List.nodup_append.mp linked.distinct
  have tail : ∃ x ∈ e :: back, l.prev .head = .entry x := by
    rcases segment_last l _ _ back after with ⟨last, _⟩ | ⟨x, member, last⟩
    · exact ⟨e, List.mem_cons_self, last⟩
    · exact ⟨x, List.mem_cons_of_mem e member, last⟩
  obtain ⟨x, member, last⟩ := tail
  -- In front of the entry all forward links are as before.
  have leads : Leads (listAddTail l (.entry e)) .head front (.entry e) := by
    apply leads_frame l _ _ _ front _ (segment_leads l _ _ front before)
    refine ⟨by simp [listAddTail_next, last], ?_⟩
    intro early there
    have other := apart early there e List.mem_cons_self
    have further := apart early there x member
    simp [listAddTail_next, last, other, further]
  obtain ⟨left, later, rest, rfl⟩ := visit_leads _ _ _ front _ fuel leads ends
  cases left with
  | zero => cases rest
  | succ left =>
      obtain ⟨met, onward, rfl⟩ := Option.map_eq_some_iff.mp rest
      by_cases here : x = e
      · have circles : (listAddTail l (.entry e)).next (.entry e) = .entry e := by
          rw [listAddTail_next, last, here, if_pos rfl]
        rw [circles, visit_circles _ _ circles] at onward
        cases onward
      · have out : (listAddTail l (.entry e)).next (.entry e) = .head := by
          rw [listAddTail_next, last, if_neg (by simp [Ne.symm here]), if_pos rfl]
        rw [out] at onward
        cases left with
        | zero => cases onward
        | succ left =>
            obtain rfl : [] = met := Option.some.inj onward
            have behind : x ∈ back := (List.mem_cons.mp member).resolve_left here
            exact ⟨back, List.ne_nil_of_mem behind, by simp⟩

end Operations

end RyzenBuild.IntrusiveList
