import ModemRelay.Simulation.Agenda

/-!
# The lanes of an agenda

The events of one kind that are queued, in the order in which they are to happen, form a lane
(`Agenda.lane`). An event that is posted behind all others of its kind joins the lane at its end
(`Keyed.lane_post`), the event taken off is the head of its lane (`lane_popNext`), cancelling a key
takes it out of its lane (`Keyed.lane_cancel`), and no other lane changes.
-/

namespace ModemRelay.Simulation

namespace Slot

instance : LT Slot :=
  ⟨fun a b => a.due.nanos < b.due.nanos ∨ a.due.nanos = b.due.nanos ∧ a.key < b.key⟩

theorem lt_def {a b : Slot} :
    a < b ↔ a.due.nanos < b.due.nanos ∨ a.due.nanos = b.due.nanos ∧ a.key < b.key := .rfl

theorem compare_eq_lt {a b : Slot} : Slot.compare a b = .lt ↔ a < b := by
  simp only [Slot.compare, compareLex, compareOn, Ordering.then_eq_lt, Nat.compare_eq_lt,
    Nat.compare_eq_eq, lt_def]

theorem lt_irrefl (a : Slot) : ¬a < a := by
  simp only [lt_def]
  omega

theorem lt_asymm {a b : Slot} (h : a < b) : ¬b < a := by
  simp only [lt_def] at *
  omega

/-- Of two places the first is the one that is not behind the other. -/
theorem lt_of_isLE {a b : Slot} (h : (Slot.compare a b).isLE = true) (hne : a ≠ b) : a < b := by
  rw [compare_isLE] at h
  rw [lt_def]
  rcases h with h | ⟨hd, hk⟩
  · exact .inl h
  · refine .inr ⟨hd, Nat.lt_of_le_of_ne hk fun hk => hne ?_⟩
    obtain ⟨⟨_, _⟩, _⟩ := a
    obtain ⟨⟨_, _⟩, _⟩ := b
    simp_all

end Slot

namespace Agenda

/-- What holds of an agenda however its clock is moved: keys are not used twice, and each queued key
is known by its due time. -/
structure Keyed (a : Agenda) : Prop where
  key_lt : ∀ slot ∈ a.queue, slot.key < a.nextKey
  dueOf_iff : ∀ key due, a.dueOf[key]? = some due ↔ ⟨due, key⟩ ∈ a.queue

/-- What holds of an agenda at all times of a session: nothing is overdue. -/
structure Sound (a : Agenda) : Prop extends a.Keyed where
  now_le : ∀ slot ∈ a.queue, a.now ≤ slot.due

/-- Queues an event at a time. -/
def post (a : Agenda) (due : Duration) (event : Relay.Input) : Agenda :=
  { a with
    nextKey := a.nextKey + 1
    queue := a.queue.insert ⟨due, a.nextKey⟩ event
    dueOf := a.dueOf.insert a.nextKey due }

/-- The queued events of one kind, earliest first. -/
def lane (a : Agenda) (kind : Relay.Input → Option β) : List (Slot × β) :=
  a.queue.toList.filterMap fun (slot, event) => (kind event).map (slot, ·)

variable {a a' : Agenda} {due time : Duration} {event : Relay.Input} {key : Nat} {d : Due}
  {kind : Relay.Input → Option β}

theorem schedule_eq_done_iff :
    a.schedule delay event = .done key a' ↔
      ∃ due, a.now.add? delay = some due ∧ key = a.nextKey ∧ a' = a.post due event := by
  unfold schedule
  cases a.now.add? delay with
  | none => simp
  | some due => simp [post, eq_comm]

theorem schedule_eq_overflow (h : a.schedule delay event = .overflow a') :
    a' = a.takeKey ∧ a.now.add? delay = none := by
  unfold schedule at h
  split at h
  · cases h
  · next hlate =>
    cases h
    exact ⟨rfl, hlate⟩

theorem mem_queue_iff {slot : Slot} :
    slot ∈ a.queue ↔ ∃ event, a.queue[slot]? = some event := by
  rw [Std.ExtTreeMap.mem_iff_isSome_getElem?, Option.isSome_iff_exists]

/-! ## Keys and times -/

theorem Sound.new : ({} : Agenda).Sound where
  key_lt slot h := by simp at h
  dueOf_iff key due := by simp
  now_le slot h := by simp at h

theorem mem_post {slot : Slot} :
    slot ∈ (a.post due event).queue ↔ slot = ⟨due, a.nextKey⟩ ∨ slot ∈ a.queue := by
  rw [post, Std.ExtTreeMap.mem_insert, Std.LawfulEqCmp.compare_eq_iff_eq, eq_comm]

theorem getElem?_post {slot : Slot} :
    (a.post due event).queue[slot]? =
      if ⟨due, a.nextKey⟩ = slot then some event else a.queue[slot]? := by
  simp only [post, Std.ExtTreeMap.getElem?_insert, Std.LawfulEqCmp.compare_eq_iff_eq]

theorem Keyed.getElem?_nextKey (h : a.Keyed) (due : Duration) :
    a.queue[(⟨due, a.nextKey⟩ : Slot)]? = none :=
  Std.ExtTreeMap.getElem?_eq_none fun hs => Nat.lt_irrefl _ (h.key_lt _ hs)

theorem Keyed.takeKey (h : a.Keyed) : a.takeKey.Keyed :=
  ⟨fun slot hs => Nat.lt_succ_of_lt (h.key_lt slot hs), h.dueOf_iff⟩

theorem Keyed.post (h : a.Keyed) : (a.post due event).Keyed where
  key_lt slot hs := by
    rcases mem_post.mp hs with rfl | hs
    · exact Nat.lt_succ_self _
    · exact Nat.lt_succ_of_lt (h.key_lt slot hs)
  dueOf_iff key due' := by
    rw [mem_post]
    by_cases hk : a.nextKey = key
    · have hnew : ⟨due', key⟩ ∉ a.queue := fun hs => (Nat.ne_of_gt (h.key_lt _ hs)) hk
      simp [Agenda.post, hk, hnew, eq_comm]
    · simp [Agenda.post, Std.ExtTreeMap.getElem?_insert, hk, h.dueOf_iff, Ne.symm hk]

theorem Sound.post (h : a.Sound) (hd : a.now ≤ due) : (a.post due event).Sound where
  toKeyed := h.toKeyed.post
  now_le slot hs := by
    rcases mem_post.mp hs with rfl | hs
    · exact hd
    · exact h.now_le slot hs

theorem Keyed.advanceTo (h : a.Keyed) (time : Duration) : (a.advanceTo time).Keyed :=
  ⟨h.key_lt, h.dueOf_iff⟩

/-- The clock may be moved to a time by which nothing is due. -/
theorem Sound.advanceTo (h : a.Sound) (hl : ∀ slot ∈ a.queue, time < slot.due) :
    (a.advanceTo time).Sound where
  toKeyed := h.toKeyed.advanceTo time
  now_le slot hs := by
    rw [Agenda.advanceTo, Duration.le_def, Duration.nanos_max]
    exact Nat.max_le.mpr ⟨h.now_le slot hs, Nat.le_of_lt (hl slot hs)⟩

/-- A key is queued at one time only. -/
theorem Keyed.eq_of_key (h : a.Keyed) {s s' : Slot} (hs : s ∈ a.queue) (hs' : s' ∈ a.queue)
    (hk : s.key = s'.key) : s = s' := by
  obtain ⟨due, key⟩ := s
  obtain ⟨due', key'⟩ := s'
  cases hk
  have hd := ((h.dueOf_iff key due).mpr hs).symm.trans ((h.dueOf_iff key due').mpr hs')
  cases hd
  rfl

/-- Cancelling takes the event of the key off, if it is queued, and leaves all others. -/
theorem Keyed.getElem?_cancel (h : a.Keyed) (key : Nat) (slot : Slot) :
    (a.cancel key).2.queue[slot]? = if slot.key = key then none else a.queue[slot]? := by
  unfold cancel
  cases hk : a.dueOf[key]? with
  | none =>
    obtain ⟨due, key'⟩ := slot
    by_cases hs : key' = key
    · have hmem : ⟨due, key'⟩ ∉ a.queue := fun hmem => by
        rw [← h.dueOf_iff, hs, hk] at hmem
        cases hmem
      simpa using fun _ => hmem
    · simp [hs]
  | some due =>
    simp only [Std.ExtTreeMap.getElem?_erase, Std.LawfulEqCmp.compare_eq_iff_eq]
    have hq := (h.dueOf_iff key due).mp hk
    by_cases hs : slot.key = key
    · by_cases hmem : slot ∈ a.queue
      · have := h.eq_of_key hq hmem hs.symm
        simp [this, hs]
      · simp [hs, Std.ExtTreeMap.getElem?_eq_none hmem]
    · have : (⟨due, key⟩ : Slot) ≠ slot := fun heq => hs (heq ▸ rfl)
      simp [this, hs]

theorem now_cancel (a : Agenda) (key : Nat) : (a.cancel key).2.now = a.now := by
  unfold cancel
  split <;> rfl

theorem nextKey_cancel (a : Agenda) (key : Nat) : (a.cancel key).2.nextKey = a.nextKey := by
  unfold cancel
  split <;> rfl

theorem Keyed.cancel (h : a.Keyed) (key : Nat) : (a.cancel key).2.Keyed := by
  unfold Agenda.cancel
  cases hk : a.dueOf[key]? with
  | none => exact h
  | some due =>
    refine ⟨fun slot hs => h.key_lt slot (Std.ExtTreeMap.mem_of_mem_erase hs), fun key' due' => ?_⟩
    have hq := (h.dueOf_iff key due).mp hk
    simp only [Std.ExtTreeMap.getElem?_erase, Std.ExtTreeMap.mem_erase,
      Std.LawfulEqCmp.compare_eq_iff_eq]
    by_cases hne : key = key'
    · subst hne
      simpa [-Slot.mk.injEq] using fun hne hs => hne (h.eq_of_key hq hs rfl)
    · simp [hne, h.dueOf_iff]

/-- A cancellation finds the event of the key exactly where one is queued. -/
theorem Keyed.cancel_fst (h : a.Keyed) (key : Nat) :
    (a.cancel key).1 = true ↔ ∃ slot ∈ a.queue, slot.key = key := by
  unfold Agenda.cancel
  cases hk : a.dueOf[key]? with
  | none =>
    refine iff_of_false Bool.false_ne_true ?_
    rintro ⟨slot, hs, rfl⟩
    exact nomatch hk.symm.trans ((h.dueOf_iff slot.key slot.due).mpr hs)
  | some due =>
    have hs := (h.dueOf_iff key due).mp hk
    exact iff_of_true (Std.ExtTreeMap.mem_iff_contains.mp hs) ⟨_, hs, rfl⟩

theorem mem_of_mem_cancel {slot : Slot} (hs : slot ∈ (a.cancel key).2.queue) : slot ∈ a.queue := by
  unfold cancel at hs
  split at hs
  · exact Std.ExtTreeMap.mem_of_mem_erase hs
  · exact hs

theorem Sound.cancel (h : a.Sound) (key : Nat) : (a.cancel key).2.Sound where
  toKeyed := h.toKeyed.cancel key
  now_le slot hs := by
    rw [now_cancel]
    exact h.now_le slot (mem_of_mem_cancel hs)

/-- What taking the earliest event off leaves. -/
theorem popNext_snd (h : a.popNext = some (d, a')) :
    a' = { a with
      now := max a.now d.time
      queue := a.queue.erase ⟨d.time, d.key⟩
      dueOf := a.dueOf.erase d.key } := by
  unfold popNext at h
  simp only [Option.bind_eq_bind, Option.bind_eq_some_iff, Option.some.injEq, Prod.mk.injEq] at h
  obtain ⟨slot, -, event, -, rfl, rfl⟩ := h
  rfl

theorem mem_of_popNext (h : a.popNext = some (d, a')) : ⟨d.time, d.key⟩ ∈ a.queue :=
  mem_queue_iff.mpr ⟨d.event, (popNext_eq_some h).1⟩

theorem getElem?_of_popNext (h : a.popNext = some (d, a')) {slot : Slot}
    (hq : a'.queue[slot]? = some event) : a.queue[slot]? = some event := by
  rw [popNext_snd h, Std.ExtTreeMap.getElem?_erase] at hq
  split at hq
  · cases hq
  · exact hq

/-- The event taken off comes before all that stay. -/
theorem lt_of_popNext (h : a.popNext = some (d, a')) {slot : Slot} (hs : slot ∈ a'.queue) :
    ⟨d.time, d.key⟩ < slot := by
  rw [popNext_snd h, Std.ExtTreeMap.mem_erase, ne_eq, Std.LawfulEqCmp.compare_eq_iff_eq] at hs
  exact Slot.lt_of_isLE ((popNext_eq_some h).2 slot hs.2) hs.1

theorem nextKey_of_popNext (h : a.popNext = some (d, a')) : a'.nextKey = a.nextKey := by
  rw [popNext_snd h]

/-- Taking the earliest event off moves the clock to its time. -/
theorem Sound.now_of_popNext (hs : a.Sound) (h : a.popNext = some (d, a')) : a'.now = d.time := by
  rw [popNext_snd h]
  exact if_pos (hs.now_le _ (mem_of_popNext h))

theorem Sound.now_le_of_popNext (hs : a.Sound) (h : a.popNext = some (d, a')) : a.now ≤ a'.now :=
  hs.now_of_popNext h ▸ hs.now_le _ (mem_of_popNext h)

theorem mem_of_mem_popNext (h : a.popNext = some (d, a')) {slot : Slot} (hs : slot ∈ a'.queue) :
    slot ∈ a.queue := by
  rw [popNext_snd h] at hs
  exact Std.ExtTreeMap.mem_of_mem_erase hs

theorem Keyed.popNext (hs : a.Keyed) (h : a.popNext = some (d, a')) : a'.Keyed where
  key_lt slot hq := by
    rw [nextKey_of_popNext h]
    exact hs.key_lt slot (mem_of_mem_popNext h hq)
  dueOf_iff key due := by
    rw [popNext_snd h]
    simp only [Std.ExtTreeMap.getElem?_erase, Std.ExtTreeMap.mem_erase,
      Std.LawfulEqCmp.compare_eq_iff_eq]
    by_cases hk : d.key = key
    · subst hk
      simpa [-Slot.mk.injEq] using fun hne hq => hne (hs.eq_of_key (mem_of_popNext h) hq rfl)
    · simp [hk, hs.dueOf_iff]

theorem Sound.popNext (hs : a.Sound) (h : a.popNext = some (d, a')) : a'.Sound where
  toKeyed := hs.toKeyed.popNext h
  now_le slot hq := by
    have hlt := lt_of_popNext h hq
    rw [hs.now_of_popNext h, Duration.le_def]
    exact hlt.elim Nat.le_of_lt fun heq => Nat.le_of_eq heq.1

/-! ## Timers among the events -/

/-- The handle has been given out, and what is queued under it is a timer. -/
structure IsTimer (a : Agenda) (timer : TimerHandle) : Prop where
  lt : timer.val < a.nextKey
  event : ∀ (slot : Slot) (event : Relay.Input), a.queue[slot]? = some event →
    slot.key = timer.val → ∃ x, event = .timer x

theorem IsTimer.post {timer : TimerHandle} (h : a.IsTimer timer) :
    (a.post due event).IsTimer timer where
  lt := Nat.lt_succ_of_lt h.lt
  event slot event' hq hk := by
    rw [getElem?_post] at hq
    split at hq
    · next hs =>
      subst hs
      exact (Nat.ne_of_gt h.lt hk).elim
    · exact h.event slot event' hq hk

theorem IsTimer.cancel {timer : TimerHandle} (h : a.IsTimer timer) (hs : a.Sound) (key : Nat) :
    (a.cancel key).2.IsTimer timer where
  lt := by
    have := h.lt
    unfold Agenda.cancel
    split <;> exact this
  event slot event' hq hk := by
    rw [hs.getElem?_cancel] at hq
    split at hq
    · cases hq
    · exact h.event slot event' hq hk

/-! ## Lanes -/

theorem mem_lane {slot : Slot} {b : β} :
    (slot, b) ∈ a.lane kind ↔ ∃ event, a.queue[slot]? = some event ∧ kind event = some b := by
  simp only [lane, List.mem_filterMap, Prod.exists, Option.map_eq_some_iff, Prod.mk.injEq,
    Std.ExtTreeMap.mem_toList_iff_getElem?_eq_some]
  constructor
  · rintro ⟨slot, event, hq, b, hk, rfl, rfl⟩
    exact ⟨event, hq, hk⟩
  · rintro ⟨event, hq, hk⟩
    exact ⟨slot, event, hq, b, hk, rfl, rfl⟩

theorem mem_queue_of_mem_lane {x : Slot × β} (h : x ∈ a.lane kind) : x.1 ∈ a.queue := by
  obtain ⟨event, hq, -⟩ := mem_lane.mp h
  exact mem_queue_iff.mpr ⟨event, hq⟩

theorem size_eq_zero_iff : a.size = 0 ↔ a.queue = ∅ :=
  Std.ExtTreeMap.eq_empty_iff_size_eq_zero.symm

theorem lane_of_size (h : a.size = 0) : a.lane kind = [] := by
  have : a.queue.toList = [] := List.eq_nil_of_length_eq_zero (by simpa [size] using h)
  simp [lane, this]

theorem lane_pairwise (a : Agenda) (kind : Relay.Input → Option β) :
    (a.lane kind).Pairwise (·.1 < ·.1) := by
  refine List.Pairwise.filterMap _ ?_ a.queue.ordered_keys_toList
  rintro ⟨s, e⟩ ⟨s', e'⟩ h b hb b' hb'
  simp only [Option.map_eq_some_iff] at hb hb'
  obtain ⟨_, -, rfl⟩ := hb
  obtain ⟨_, -, rfl⟩ := hb'
  exact Slot.compare_eq_lt.mp h

theorem Keyed.nodup_keys (h : a.Keyed) (kind : Relay.Input → Option β) :
    ((a.lane kind).map (·.1.key)).Nodup := by
  rw [List.Nodup, List.pairwise_map]
  refine (a.lane_pairwise kind).imp_of_mem fun {x y} hx hy hlt hk => ?_
  have heq := h.eq_of_key (mem_queue_of_mem_lane hx) (mem_queue_of_mem_lane hy) hk
  rw [heq] at hlt
  exact Slot.lt_irrefl _ hlt

private theorem nodup_of_pairwise {l : List (Slot × β)} (h : l.Pairwise (·.1 < ·.1)) : l.Nodup :=
  h.imp fun {x y} (hlt : x.1 < y.1) heq => Slot.lt_irrefl x.1 (by rwa [← heq] at hlt)

/-- A lane is known by its events. -/
theorem lane_eq {l : List (Slot × β)} (hl : l.Pairwise (·.1 < ·.1))
    (hm : ∀ slot b, (slot, b) ∈ l ↔ ∃ event, a.queue[slot]? = some event ∧ kind event = some b) :
    a.lane kind = l := by
  have hlane := a.lane_pairwise kind
  have hperm : (a.lane kind).Perm l := by
    rw [List.perm_ext_iff_of_nodup (nodup_of_pairwise hlane) (nodup_of_pairwise hl)]
    rintro ⟨slot, b⟩
    rw [mem_lane, hm]
  exact hperm.eq_of_pairwise (fun x y _ _ h h' => (Slot.lt_asymm h h').elim) hlane hl

/-- An event that is posted joins its lane behind all that are due no later. -/
theorem Keyed.lane_post_split (h : a.Keyed) :
    (a.post due event).lane kind = (a.lane kind).filter (·.1.due ≤ due) ++
      ((kind event).map (⟨due, a.nextKey⟩, ·)).toList ++
        (a.lane kind).filter (¬·.1.due ≤ due) := by
  refine lane_eq ?_ fun slot b => ?_
  · have hlane := a.lane_pairwise kind
    simp only [List.pairwise_append, List.mem_append, List.mem_filter, Option.mem_toList,
      Option.map_eq_some_iff, decide_eq_true_eq, Duration.le_def, Slot.lt_def]
    refine ⟨⟨hlane.filter _, by cases kind event <;> simp, ?_⟩, hlane.filter _, ?_⟩
    · rintro x ⟨hx, hdue⟩ y ⟨b, -, rfl⟩
      have hkey := h.key_lt x.1 (mem_queue_of_mem_lane hx)
      dsimp only
      omega
    · rintro x (⟨hx, hdue⟩ | ⟨b, -, rfl⟩) y ⟨hy, hlate⟩
      · omega
      · dsimp only
        omega
  · simp only [List.mem_append, List.mem_filter, mem_lane, Option.mem_toList,
      Option.map_eq_some_iff, Prod.mk.injEq, getElem?_post, decide_eq_true_eq]
    by_cases hs : (⟨due, a.nextKey⟩ : Slot) = slot
    · subst hs
      simp [h.getElem?_nextKey]
    · by_cases hd : slot.due ≤ due <;> simp [hs, hd]

/-- An event that is posted joins its lane, wherever it is due. -/
theorem Keyed.perm_lane_post (h : a.Keyed) :
    ((a.post due event).lane kind).Perm
      (a.lane kind ++ ((kind event).map (⟨due, a.nextKey⟩, ·)).toList) := by
  have hall := List.filter_append_perm (·.1.due ≤ due) (a.lane kind)
  simp only [← decide_not] at hall
  rw [h.lane_post_split, List.append_assoc]
  refine (List.perm_append_comm.append_left _).trans ?_
  rw [← List.append_assoc]
  exact hall.append_right _

/-- An event that is due no earlier than those of its kind joins their lane at the end. -/
theorem Keyed.lane_post (h : a.Keyed) (hd : ∀ x ∈ a.lane kind, x.1.due ≤ due) :
    (a.post due event).lane kind =
      a.lane kind ++ ((kind event).map (⟨due, a.nextKey⟩, ·)).toList := by
  have hall : (a.lane kind).filter (·.1.due ≤ due) = a.lane kind :=
    List.filter_eq_self.mpr fun x hx => decide_eq_true (hd x hx)
  have hnone : (a.lane kind).filter (¬·.1.due ≤ due) = [] :=
    List.filter_eq_nil_iff.mpr fun x hx => by simpa using hd x hx
  rw [h.lane_post_split, hall, hnone, List.append_nil]

/-- An event of another kind leaves a lane as it is. -/
theorem Keyed.lane_post_none (h : a.Keyed) (hk : kind event = none) :
    (a.post due event).lane kind = a.lane kind := by
  refine lane_eq (a.lane_pairwise kind) fun slot b => ?_
  simp only [mem_lane, getElem?_post]
  by_cases hs : (⟨due, a.nextKey⟩ : Slot) = slot
  · subst hs
    simp [h.getElem?_nextKey, hk]
  · simp [hs]

theorem Keyed.lane_cancel (h : a.Keyed) (key : Nat) :
    (a.cancel key).2.lane kind = (a.lane kind).filter (·.1.key ≠ key) := by
  refine lane_eq ((a.lane_pairwise kind).filter _) fun slot b => ?_
  simp only [List.mem_filter, mem_lane, h.getElem?_cancel]
  by_cases hs : slot.key = key <;> simp [hs]

/-- Cancelling a timer leaves the lanes of all other kinds of events. -/
theorem IsTimer.lane_cancel {timer : TimerHandle} (h : a.IsTimer timer) (hs : a.Sound)
    (hk : ∀ x, kind (.timer x) = none) : (a.cancel timer.val).2.lane kind = a.lane kind := by
  rw [hs.lane_cancel, List.filter_eq_self]
  intro x hx
  obtain ⟨event, hq, hb⟩ := mem_lane.mp hx
  refine decide_eq_true fun hkey => ?_
  obtain ⟨y, rfl⟩ := h.event x.1 event hq hkey
  rw [hk] at hb
  cases hb

/-- The event taken off was the first of its lane, and all other lanes stay. -/
theorem lane_popNext (h : a.popNext = some (d, a')) (kind : Relay.Input → Option β) :
    a.lane kind = ((kind d.event).map (⟨d.time, d.key⟩, ·)).toList ++ a'.lane kind := by
  refine lane_eq ?_ fun slot b => ?_
  · rw [List.pairwise_append]
    refine ⟨by cases kind d.event <;> simp, a'.lane_pairwise kind, fun x hx y hy => ?_⟩
    rw [Option.mem_toList, Option.map_eq_some_iff] at hx
    obtain ⟨b, -, rfl⟩ := hx
    exact lt_of_popNext h (mem_queue_of_mem_lane hy)
  · have hq := (popNext_eq_some h).1
    simp only [List.mem_append, Option.mem_toList, Option.map_eq_some_iff, Prod.mk.injEq,
      popNext_snd h, mem_lane, Std.ExtTreeMap.getElem?_erase, Std.LawfulEqCmp.compare_eq_iff_eq]
    by_cases hs : (⟨d.time, d.key⟩ : Slot) = slot
    · subst hs
      simp [hq]
    · simp [hs]

theorem of_popNext {p : β → Prop} (h : a.popNext = some (d, a'))
    (hp : ∀ x ∈ a.lane kind, p x.2) : ∀ b ∈ kind d.event, p b := by
  intro b hb
  refine hp (⟨d.time, d.key⟩, b) ?_
  rw [lane_popNext h, Option.mem_def.mp hb]
  exact List.mem_cons_self

end Agenda

end ModemRelay.Simulation
