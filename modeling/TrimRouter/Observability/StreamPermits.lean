import TrimRouter.Observability.Server

/-!
# Slots and permits of the log streams

A log stream holds a slot of its address in `sse_ip_tracker`, with at most two to an address, and a
permit of `sse_semaphore`, of which there are four.  They are taken in two steps and given back in
two steps, by `handle_logs_stream` if there was no permit and by the drop of `IpStreamPermit`
otherwise, with the steps of other connections in between.  The result is
`stream_permits_accounted`.
-/

namespace TrimRouter.Observability

open Run (exec)

/-! ## What the connections hold -/

/-- In `handle_logs_stream`, with a slot and before it has a permit or gives the slot back. -/
def Activity.undecided : Activity → Bool
  | .deciding => true
  | .rejecting => true
  | _ => false

/-- It has a slot of its address. -/
def Activity.holdsSlot (activity : Activity) : Bool :=
  activity = .streaming || activity.undecided

/-- It has a permit. -/
def Activity.holdsPermit : Activity → Bool
  | .streaming => true
  | .releasing => true
  | _ => false

/-- How many connections of an address are at such an activity. -/
def countAt (connections : List Connection) (ip : Ipv4Addr) (p : Activity → Bool) : Nat :=
  connections.countP fun c => c.clientIp = ip && p c.activity

/-- How many connections are at such an activity. -/
def countAll (connections : List Connection) (p : Activity → Bool) : Nat :=
  connections.countP fun c => p c.activity

/-- The entry of the tracker for a count: there are none of 0. -/
def entry (count : Nat) : Option Nat := if count = 0 then none else some count

/-- Every slot and every permit is free or held by one connection. -/
structure Accounted (connections : List Connection) (sseSemaphore : Nat)
    (sseIpTracker : IpTracker) : Prop where
  slots : ∀ ip, sseIpTracker.lookup ip = entry (countAt connections ip Activity.holdsSlot)
  few : ∀ ip, countAt connections ip Activity.holdsSlot ≤ maxSseStreamsPerIp
  permits : sseSemaphore + countAll connections Activity.holdsPermit = maxConcurrentSseStreams

variable {s t : State} {l : Label} {ls : List Label} {id : Nat} {c : Connection}
  {activity : Activity} {connections : List Connection} {ipTracker : IpTracker}
  {count count' : Ipv4Addr → Nat} {ip : Ipv4Addr}

theorem countP_set_add {α : Type} {as : List α} {i : Nat} {old : α} (here : as[i]? = some old)
    (new : α) (p : α → Bool) :
    (as.set i new).countP p + (p old).toNat = as.countP p + (p new).toNat := by
  obtain ⟨bound, rfl⟩ := List.getElem?_eq_some_iff.mp here
  have before := (List.getElem_cons_eraseIdx_perm bound).countP_eq p
  have after := (List.set_perm_cons_eraseIdx bound new).countP_eq p
  rw [List.countP_cons] at before after
  simp only [Bool.toNat, cond_eq_ite]
  omega

/-- A connection at another activity, in the count of each address. -/
theorem countAt_set (here : connections[id]? = some c) (activity : Activity)
    (p : Activity → Bool) (ip : Ipv4Addr) :
    countAt (connections.set id { c with activity }) ip p +
        (if ip = c.clientIp then (p c.activity).toNat else 0) =
      countAt connections ip p + if ip = c.clientIp then (p activity).toNat else 0 := by
  have moved := countP_set_add here { c with activity } fun c => c.clientIp = ip && p c.activity
  by_cases same : ip = c.clientIp
  · subst same
    simpa [countAt] using moved
  · simpa [countAt, same, Ne.symm same] using moved

theorem countAll_set (here : connections[id]? = some c) (activity : Activity)
    (p : Activity → Bool) :
    countAll (connections.set id { c with activity }) p + (p c.activity).toNat =
      countAll connections p + (p activity).toNat :=
  countP_set_add here _ _

/-! ## The tracker -/

@[simp] theorem getD_entry {n : Nat} : (entry n).getD 0 = n := by
  unfold entry
  split <;> simp [*]

/-- After a release the address has one slot less. -/
theorem lookup_releaseIpSseSlot (counts : ∀ k, ipTracker.lookup k = entry (count k))
    (gone : ∀ k, count' k + (if k = ip then 1 else 0) = count k) (k : Ipv4Addr) :
    (releaseIpSseSlot ipTracker ip).lookup k = entry (count' k) := by
  have here := gone ip
  rw [if_pos rfl] at here
  have found : ipTracker.lookup ip = some (count' ip + 1) := by
    rw [counts ip, ← here, entry, if_neg (Nat.succ_ne_zero _)]
  have there := gone k
  rw [releaseIpSseSlot, found]
  dsimp only
  rw [Nat.add_sub_cancel]
  by_cases same : k = ip
  · subst same
    unfold entry
    split <;> simp [*]
  · rw [if_neg same, Nat.add_zero] at there
    rw [there, ← counts k]
    split
    · rw [HashMap.lookup_erase_eq, if_neg same]
    · rw [HashMap.lookup_insert_eq, if_neg same]

/-- After a reservation that has not been refused the address has one slot more. -/
theorem lookup_reserveIpSseSlot (counts : ∀ k, ipTracker.lookup k = entry (count k))
    (k : Ipv4Addr) :
    (reserveIpSseSlot ipTracker ip).2.lookup k =
      entry (count k + if k = ip then (reserveIpSseSlot ipTracker ip).1.toNat else 0) := by
  unfold reserveIpSseSlot
  rw [counts ip, getD_entry]
  by_cases full : maxSseStreamsPerIp ≤ count ip
  · have some' : count ip ≠ 0 := Nat.ne_of_gt (Nat.lt_of_lt_of_le (by decide) full)
    simp only [full, if_true, HashMap.lookup_insert_eq, counts k, Bool.toNat_false, ite_self,
      Nat.add_zero]
    by_cases same : k = ip
    · rw [if_pos same, same, entry, if_neg some']
    · rw [if_neg same]
  · simp only [full, if_false, HashMap.lookup_insert_eq, counts k, Bool.toNat_true]
    by_cases same : k = ip
    · rw [if_pos same, if_pos same, same, entry, if_neg (Nat.succ_ne_zero _)]
    · rw [if_neg same, if_neg same, Nat.add_zero]

theorem lt_of_reserveIpSseSlot (counts : ∀ k, ipTracker.lookup k = entry (count k))
    (ok : (reserveIpSseSlot ipTracker ip).1 = true) : count ip < maxSseStreamsPerIp := by
  unfold reserveIpSseSlot at ok
  rw [counts ip, getD_entry] at ok
  by_contra full
  rw [if_pos (Nat.not_lt.mp full)] at ok
  cases ok

/-! ## Runs -/

/-- What a step on a connection takes and gives back.  The semaphore follows what the connection
holds, and the tracker is unchanged, or asked for a slot, or a slot of it is released. -/
structure Exchange (s : State) (c : Connection) (activity : Activity) (sseSemaphore : Nat)
    (sseIpTracker : IpTracker) : Prop where
  permits : sseSemaphore + activity.holdsPermit.toNat =
    s.sseSemaphore + c.activity.holdsPermit.toNat
  slots : (sseIpTracker = s.sseIpTracker ∧ activity.holdsSlot = c.activity.holdsSlot) ∨
    (sseIpTracker = (reserveIpSseSlot s.sseIpTracker c.clientIp).2 ∧
      c.activity.holdsSlot = false ∧
      activity.holdsSlot = (reserveIpSseSlot s.sseIpTracker c.clientIp).1) ∨
    sseIpTracker = releaseIpSseSlot s.sseIpTracker c.clientIp ∧
      c.activity.holdsSlot = true ∧ activity.holdsSlot = false

/-- A step on a connection, with what it takes and gives back. -/
def Exchanged (s : State) (id : Nat) (t : State) : Prop :=
  ∃ c activity sseSemaphore sseIpTracker, s.connections[id]? = some c ∧
    Exchange s c activity sseSemaphore sseIpTracker ∧
    t = { s.put id c activity with sseSemaphore, sseIpTracker }

/-- The connection holds the same at its next activity. -/
theorem Exchange.nothing (slot : activity.holdsSlot = c.activity.holdsSlot)
    (permit : activity.holdsPermit = c.activity.holdsPermit) :
    Exchange s c activity s.sseSemaphore s.sseIpTracker :=
  ⟨by rw [permit], .inl ⟨rfl, slot⟩⟩

theorem Exchanged.of_request {stream : Bool} (here : s.connections[id]? = some c)
    (idle : c.activity = .idle) : Exchanged s id (s.request id c stream) := by
  unfold State.request
  split
  · refine ⟨c, if (reserveIpSseSlot s.sseIpTracker c.clientIp).1 then .deciding else .answering,
      s.sseSemaphore, _, here, ⟨?_, .inr (.inl ⟨rfl, by rw [idle]; rfl, ?_⟩)⟩, rfl⟩
    · rw [idle]
      split <;> rfl
    · split
      · exact Eq.symm ‹_›
      · exact (Bool.eq_false_iff.mpr ‹_›).symm
  · exact ⟨c, .answering, _, _, here, .nothing (by rw [idle]; rfl) (by rw [idle]; rfl), rfl⟩

theorem Exchanged.of_clientClose (here : s.connections[id]? = some c)
    (taken : s.clientClose id c = some t) : Exchanged s id t := by
  unfold State.clientClose at taken
  split at taken <;> cases taken
  case h_1 was => exact ⟨c, _, _, _, here, .nothing (by rw [was]; rfl) (by rw [was]; rfl), rfl⟩
  case h_2 was => exact ⟨c, _, _, _, here, .nothing (by rw [was]; rfl) (by rw [was]; rfl), rfl⟩
  case h_3 was =>
    exact ⟨c, _, _, _, here, ⟨by rw [was]; rfl, .inr (.inr ⟨rfl, by rw [was]; rfl, rfl⟩)⟩, rfl⟩

theorem Exchanged.of_proceed (here : s.connections[id]? = some c)
    (taken : s.proceed id c = some t) : Exchanged s id t := by
  unfold State.proceed at taken
  split at taken
  case h_1 was =>
    split at taken <;> cases taken
    exact ⟨c, _, _, _, here, .nothing (by rw [was]; rfl) (by rw [was]; rfl), rfl⟩
  case h_2 was =>
    cases taken
    refine ⟨c, _, _, _, here, .nothing ?_ ?_, rfl⟩ <;> rw [was] <;> split <;> rfl
  case h_3 was =>
    split at taken <;> cases taken
    · exact ⟨c, _, _, _, here, .nothing (by rw [was]; rfl) (by rw [was]; rfl), rfl⟩
    · rename_i room
      exact ⟨c, _, _, _, here, ⟨by rw [was, room]; rfl, .inl ⟨rfl, by rw [was]; rfl⟩⟩, rfl⟩
  case h_4 was =>
    cases taken
    exact ⟨c, _, _, _, here, ⟨by rw [was]; rfl, .inr (.inr ⟨rfl, by rw [was]; rfl, rfl⟩)⟩, rfl⟩
  case h_5 => cases taken
  case h_6 was =>
    cases taken
    exact ⟨c, _, _, _, here, ⟨by rw [was]; rfl, .inl ⟨rfl, by rw [was]; rfl⟩⟩, rfl⟩
  case h_7 => cases taken

theorem Exchanged.of_step (taken : s.step l = some t) (label : l.connection = some id) :
    Exchanged s id t := by
  cases l <;> cases label <;> simp only [State.step] at taken
  all_goals obtain ⟨c, here, taken⟩ := Option.bind_eq_some_iff.mp taken
  case request =>
    split at taken
    · rename_i idle
      cases taken
      exact .of_request here idle
    · cases taken
  case clientClose => exact .of_clientClose here taken
  case proceed => exact .of_proceed here taken

theorem Accounted.exchange {sseSemaphore : Nat} {sseIpTracker : IpTracker}
    (acc : Accounted s.connections s.sseSemaphore s.sseIpTracker)
    (here : s.connections[id]? = some c)
    (taken : Exchange s c activity sseSemaphore sseIpTracker) :
    Accounted (s.connections.set id { c with activity }) sseSemaphore sseIpTracker := by
  have slots := countAt_set here activity Activity.holdsSlot
  have permits : sseSemaphore + countAll (s.connections.set id { c with activity })
      Activity.holdsPermit = maxConcurrentSseStreams := by
    have held := countAll_set here activity Activity.holdsPermit
    have before := acc.permits
    have moved := taken.permits
    omega
  rcases taken.slots with ⟨rfl, same⟩ | ⟨rfl, before, after⟩ | ⟨rfl, before, after⟩
  · rw [same] at slots
    refine ⟨fun ip => ?_, fun ip => ?_, permits⟩
    · rw [acc.slots ip, Nat.add_right_cancel (slots ip)]
    · exact (Nat.add_right_cancel (slots ip)).trans_le (acc.few ip)
  · simp only [before, after, Bool.toNat_false, ite_self, Nat.add_zero] at slots
    refine ⟨fun ip => ?_, fun ip => ?_, permits⟩
    · rw [lookup_reserveIpSseSlot acc.slots, slots]
    · rw [slots]
      split
      · rename_i same
        rw [same]
        cases ok : (reserveIpSseSlot s.sseIpTracker c.clientIp).1 with
        | false => exact acc.few c.clientIp
        | true => exact lt_of_reserveIpSseSlot acc.slots ok
      · exact acc.few ip
  · simp only [before, after, Bool.toNat_false, Bool.toNat_true, ite_self, Nat.add_zero] at slots
    refine ⟨lookup_releaseIpSseSlot acc.slots slots, fun ip => ?_, permits⟩
    exact Nat.le_trans (Nat.le.intro (slots ip)) (acc.few ip)

theorem Accounted.step (acc : Accounted s.connections s.sseSemaphore s.sseIpTracker)
    (taken : s.step l = some t) : Accounted t.connections t.sseSemaphore t.sseIpTracker := by
  cases label : l.connection with
  | some id =>
    obtain ⟨c, activity, sseSemaphore, sseIpTracker, here, exchange, rfl⟩ :=
      Exchanged.of_step taken label
    exact acc.exchange here exchange
  | none =>
    cases Step.of_step taken with
    | connected accepting =>
      have slots : ∀ clientIp ip, countAt (s.connections ++ [⟨clientIp, .idle⟩]) ip
          Activity.holdsSlot = countAt s.connections ip Activity.holdsSlot := by
        intro clientIp ip
        simp [countAt, Activity.holdsSlot, Activity.undecided]
      refine ⟨fun ip => ?_, fun ip => ?_, ?_⟩
      · rw [slots, acc.slots]
      · exact (slots _ ip).trans_le (acc.few ip)
      · simpa [countAll, Activity.holdsPermit] using acc.permits
    | moved on => rw [label] at on; cases on
    | signalled | returned | called => exact acc
    | runner next => cases next <;> exact acc

/-- Every slot and every permit is accounted for, along every run. -/
theorem Accounted.run {started : Bool} (run : exec State.step (.init started) ls = some s) :
    Accounted s.connections s.sseSemaphore s.sseIpTracker := by
  refine Run.exec_keeps (fun s => Accounted s.connections s.sseSemaphore s.sseIpTracker)
    (fun _ _ _ acc taken => acc.step taken) ?_ run
  exact ⟨fun ip => rfl, fun ip => Nat.zero_le _, rfl⟩

/-! ## Streams and requests -/

/-- The live streams of an address. -/
def State.liveStreams (s : State) (ip : Ipv4Addr) : Nat :=
  countAt s.connections ip (· = .streaming)

/-- The requests of an address between the reservation and the decision. -/
def State.undecidedRequests (s : State) (ip : Ipv4Addr) : Nat :=
  countAt s.connections ip Activity.undecided

/-- The step gives back so many slots of the address and so many permits, and nothing else. -/
def GivesBack (s t : State) (ip : Ipv4Addr) (slots permits : Nat) : Prop :=
  (∀ k, (t.sseIpTracker.lookup k).getD 0 + (if k = ip then slots else 0) =
      (s.sseIpTracker.lookup k).getD 0) ∧
    t.sseSemaphore = s.sseSemaphore + permits

theorem countP_add_countP {α : Type} {p q r : α → Bool}
    (split : ∀ a, (p a).toNat + (q a).toNat = (r a).toNat) (as : List α) :
    as.countP p + as.countP q = as.countP r := by
  induction as with
  | nil => rfl
  | cons a as ih =>
    have here := split a
    simp only [Bool.toNat, cond_eq_ite] at here
    rw [List.countP_cons, List.countP_cons, List.countP_cons]
    omega

theorem liveStreams_add : s.liveStreams ip + s.undecidedRequests ip =
    countAt s.connections ip Activity.holdsSlot := by
  refine countP_add_countP (fun c => ?_) s.connections
  obtain ⟨clientIp, activity⟩ := c
  by_cases same : clientIp = ip
  · cases activity <;> simp [same, Activity.holdsSlot, Activity.undecided]
  · simp [same]

theorem Accounted.givesBack {slots permits : Nat}
    (acc : Accounted s.connections s.sseSemaphore s.sseIpTracker)
    (here : s.connections[id]? = some c) (taken : s.step l = some t)
    (next : t.connections = s.connections.set id { c with activity })
    (slot : c.activity.holdsSlot.toNat = activity.holdsSlot.toNat + slots)
    (permit : c.activity.holdsPermit.toNat = activity.holdsPermit.toNat + permits) :
    GivesBack s t c.clientIp slots permits := by
  have acc' := acc.step taken
  refine ⟨fun k => ?_, ?_⟩
  · have moved := countAt_set here activity Activity.holdsSlot k
    rw [acc'.slots, acc.slots, getD_entry, getD_entry, next]
    split at moved
    · rw [if_pos ‹_›]
      omega
    · rw [if_neg ‹_›]
      exact moved
  · have moved := countAll_set here activity Activity.holdsPermit
    have before := acc.permits
    have after := acc'.permits
    rw [next] at after
    omega

/-- The tracker counts the live streams and the undecided requests of every address, which are at
most two, without entries of 0.  The permits that are not free are those of the streams, live or in
their drop, and there are four.  A rejected request, and a stream that ends in two steps, give back
what they took. -/
theorem stream_permits_accounted {started : Bool} {labels : List Label}
    (run : exec State.step (.init started) labels = some s) :
    (∀ ip, s.sseIpTracker.lookup ip = entry (s.liveStreams ip + s.undecidedRequests ip)) ∧
      (∀ ip, s.liveStreams ip + s.undecidedRequests ip ≤ maxSseStreamsPerIp) ∧
      s.sseSemaphore + countAll s.connections (· = .streaming) +
        countAll s.connections (· = .releasing) = maxConcurrentSseStreams ∧
      ∀ id c, s.connections[id]? = some c →
        (c.activity = .rejecting →
          ∃ t, s.step (.proceed id) = some t ∧ GivesBack s t c.clientIp 1 0) ∧
        (c.activity = .streaming → ∃ t, s.step (.clientClose id) = some t ∧
          t.connections[id]? = some { c with activity := .releasing } ∧
          GivesBack s t c.clientIp 1 0) ∧
        (c.activity = .releasing →
          ∃ t, s.step (.proceed id) = some t ∧ GivesBack s t c.clientIp 0 1) := by
  have acc := Accounted.run run
  refine ⟨fun ip => ?_, fun ip => ?_, ?_, fun id c here =>
    ⟨fun was => ?_, fun was => ?_, fun was => ?_⟩⟩
  · rw [liveStreams_add, acc.slots]
  · rw [liveStreams_add]
    exact acc.few ip
  · have all := acc.permits
    have held : countAll s.connections (· = .streaming) +
        countAll s.connections (· = .releasing) = countAll s.connections Activity.holdsPermit :=
      countP_add_countP (fun c => by cases c.activity <;> rfl) s.connections
    omega
  · have taken : s.step (.proceed id) = some { s.put id c .answering with
        sseIpTracker := releaseIpSseSlot s.sseIpTracker c.clientIp } := by
      simp [State.step, here, State.proceed, was]
    exact ⟨_, taken, acc.givesBack here taken rfl (by rw [was]; rfl) (by rw [was]; rfl)⟩
  · have taken : s.step (.clientClose id) = some { s.put id c .releasing with
        sseIpTracker := releaseIpSseSlot s.sseIpTracker c.clientIp } := by
      simp [State.step, here, State.clientClose, was]
    refine ⟨_, taken, ?_, acc.givesBack here taken rfl (by rw [was]; rfl) (by rw [was]; rfl)⟩
    obtain ⟨bound, -⟩ := List.getElem?_eq_some_iff.mp here
    exact List.getElem?_set_self bound
  · have taken : s.step (.proceed id) = some { s.put id c .finished with
        sseSemaphore := s.sseSemaphore + 1 } := by
      simp [State.step, here, State.proceed, was]
    exact ⟨_, taken, acc.givesBack here taken rfl (by rw [was]; rfl) (by rw [was]; rfl)⟩

/-- Two clients have two streams each, and a third is rejected. -/
theorem stream_permits_accounted_for_three : ∃ s t,
    exec State.step (.init true)
      ([10, 10, 11, 11, 12].zipIdx.flatMap fun (last, id) =>
        [.connect (.new 192 168 1 last), .request id true, .proceed id]) = some s ∧
      s.step (.proceed 4) = some t ∧ GivesBack s t (.new 192 168 1 12) 1 0 := by
  obtain ⟨s, run, rejecting⟩ : ∃ s, exec State.step (.init true)
      ([10, 10, 11, 11, 12].zipIdx.flatMap fun (last, id) =>
        [.connect (.new 192 168 1 last), .request id true, .proceed id]) = some s ∧
      s.connections[4]? = some ⟨.new 192 168 1 12, .rejecting⟩ := by decide +kernel
  obtain ⟨-, -, -, ends⟩ := stream_permits_accounted run
  obtain ⟨t, taken, back⟩ := (ends 4 _ rejecting).1 rfl
  exact ⟨s, t, run, taken, back⟩

end TrimRouter.Observability
