import Isochrone.Request.Load

/-!
# What a load comes to

Polling ends, so a load that is driven has a closed form: an idle request is left alone, a
request whose fetch was issued before is refused, and a queued one calls its transport and
takes the answer. How often the transport lets a poll pass does not appear in these forms. A
load that is given up is either the same load or has only called its transport.
-/

namespace Isochrone

variable {ι : Type}

namespace Outcome

variable {α β : Type}

@[simp] theorem request_map (f : α → β) (o : Outcome ι α) : (o.map f).request = o.request := rfl

@[simp] theorem events_map (f : α → β) (o : Outcome ι α) : (o.map f).events = o.events := rfl

@[simp] theorem request_after (o : Outcome ι α) (events : List (Event ι)) :
    (o.after events).request = o.request := rfl

/-- Events before the own ones stand before them. -/
@[simp] theorem events_after (o : Outcome ι α) (events : List (Event ι)) :
    (o.after events).events = events ++ o.events := rfl

/-- Events before the own ones leave the result as it is. -/
@[simp] theorem result_after (o : Outcome ι α) (events : List (Event ι)) :
    (o.after events).result = o.result := rfl

/-- No events before the own ones make no difference. -/
@[simp] theorem after_nil (o : Outcome ι α) : o.after [] = o := rfl

end Outcome

namespace Request

variable {t : Transport} {load next : Load} {r : Request ι} {result : LoadResult}

/-- The request whose transport has been called. -/
def issued (r : Request ι) : Request ι := { r with state := .pending }

/-- What happens when a request calls its transport. -/
def issueEvents (t : Transport) (r : Request ι) : List (Event ι) :=
  .note (.fetching r.url) :: .asked r.url :: (t.notes r.url).map .note

/-- The refusal of a load whose fetch was issued before. -/
def refusal (r : Request ι) : LoadError := .alreadyIssued r.url.toString

/-- A load that is ready after a poll has come to its end. -/
theorem drive_of_ready (h : (r.poll t load).result = .ready result) :
    r.drive t load = ⟨(r.poll t load).request, (r.poll t load).events, result⟩ := by
  rw [drive]
  split
  · rename_i found hfound
    rw [hfound] at h
    rw [Poll.ready.inj h]
  · rename_i next hnext
    rw [hnext] at h
    cases h

/-- A load that is not ready after a poll is driven on from there. -/
theorem drive_of_notReady (h : (r.poll t load).result = .notReady next) :
    r.drive t load =
      ((r.poll t load).request.drive t next).after (r.poll t load).events := by
  rw [drive]
  split
  · rename_i found hfound
    rw [hfound] at h
    cases h
  · rename_i found hfound
    rw [hfound] at h
    obtain rfl := Poll.notReady.inj h
    rfl

/-- Waiting shows nothing, and the answer is taken at its end. -/
theorem drive_waiting (t : Transport) (left : Nat) (r : Request ι) :
    r.drive t (.waiting left) = r.settle t := by
  induction left with
  | zero => exact drive_of_ready rfl
  | succ left ih =>
    have hpoll : r.poll t (.waiting (left + 1)) = ⟨r, [], .notReady (.waiting left)⟩ := rfl
    rw [drive_of_notReady (congrArg Outcome.result hpoll), hpoll, ih, Outcome.after_nil]

/-- A load that waits is dropped if its polls are used up before the answer is there. -/
theorem driveFor_waiting (t : Transport) (polls left : Nat) (r : Request ι) :
    r.driveFor t polls (.waiting left) =
      if left < polls then (r.settle t).map some else ⟨r, [], none⟩ := by
  induction polls generalizing left with
  | zero => rfl
  | succ polls ih =>
    cases left with
    | zero => rfl
    | succ left =>
      simp only [driveFor, poll, await, ih, Nat.add_lt_add_iff_right]
      exact Outcome.after_nil _

/-- The first poll of a queued request calls the transport and waits for it. -/
theorem poll_fresh_of_queued (h : r.state = .queued) :
    r.poll t .fresh = (r.issued.await t t.delay).after (r.issueEvents t) := by
  simp only [poll, h]
  rfl

/-- An idle request is left alone. -/
theorem load_of_idle (t : Transport) (h : r.state = .idle) :
    r.load t = ⟨r, [.note (.loadingDisabled r.url)], .ok ()⟩ := by
  have hpoll : r.poll t .fresh = ⟨r, [.note (.loadingDisabled r.url)], .ready (.ok ())⟩ := by
    simp only [poll, h]
  rw [load, drive_of_ready (congrArg Outcome.result hpoll), hpoll]

/-- Only an idle or a queued request can be loaded. -/
theorem poll_fresh_of_refused (hi : r.state ≠ .idle) (hq : r.state ≠ .queued) :
    r.poll t .fresh = ⟨r, [], .ready (.error r.refusal)⟩ := by
  cases hs : r.state with
  | idle => exact absurd hs hi
  | queued => exact absurd hs hq
  | _ => simp only [poll, hs, refusal]

/-- A load of a request that has been issued before is refused. -/
theorem load_of_refused (t : Transport) (hi : r.state ≠ .idle) (hq : r.state ≠ .queued) :
    r.load t = ⟨r, [], .error r.refusal⟩ := by
  have hpoll : r.poll t .fresh = ⟨r, [], .ready (.error r.refusal)⟩ :=
    poll_fresh_of_refused hi hq
  rw [load, drive_of_ready (congrArg Outcome.result hpoll), hpoll]

/-- A queued request calls its transport and takes the answer. -/
theorem load_of_queued (t : Transport) (h : r.state = .queued) :
    r.load t = (r.issued.settle t).after (r.issueEvents t) := by
  have hpoll : r.poll t .fresh = (r.issued.await t t.delay).after (r.issueEvents t) :=
    poll_fresh_of_queued h
  cases hd : t.delay with
  | zero =>
    rw [hd] at hpoll
    rw [load, drive_of_ready (congrArg Outcome.result hpoll), hpoll]
    rfl
  | succ left =>
    rw [hd] at hpoll
    rw [load, drive_of_notReady (congrArg Outcome.result hpoll), hpoll]
    simp only [await, Outcome.request_after, Outcome.events_after, List.append_nil,
      drive_waiting]

/-- A load of a request that is not queued is ready at its first poll. -/
theorem loadDropped_of_not_queued (t : Transport) (polls : Nat) (h : r.state ≠ .queued) :
    r.loadDropped t (polls + 1) = (r.load t).map some := by
  by_cases hi : r.state = .idle
  · rw [load_of_idle t hi]
    simp only [loadDropped, driveFor, poll, hi]
    rfl
  · rw [load_of_refused t hi h]
    simp only [loadDropped, driveFor, poll_fresh_of_refused hi h]
    rfl

/-- A load of a queued request that is polled as often as its transport lets polls pass, and
once more, is the whole load; with fewer polls it has only called its transport. -/
theorem loadDropped_of_queued (t : Transport) (polls : Nat) (h : r.state = .queued) :
    r.loadDropped t (polls + 1) =
      if t.delay ≤ polls then (r.load t).map some else ⟨r.issued, r.issueEvents t, none⟩ := by
  rw [load_of_queued t h]
  simp only [loadDropped, driveFor, poll_fresh_of_queued h]
  cases hd : t.delay with
  | zero => rfl
  | succ left =>
    simp only [await, Outcome.request_after, Outcome.events_after, Outcome.result_after,
      List.append_nil, driveFor_waiting, Nat.succ_le_iff]
    split
    · rfl
    · simp only [Outcome.after, List.append_nil]

/-- What happens when the transport's answer has been indexed, with its warnings. -/
def answerEvents (r : Request ι) (warnings : List RepeatedCutoff) : List (Event ι) :=
  .answered r.url :: warnings.map fun warning => .note (.repeated warning)

/-- The events of an answer are the answer and a note for each warning. -/
theorem answerEvents_eq (r : Request ι) (warnings : List RepeatedCutoff) :
    r.answerEvents warnings =
      .answered r.url :: (warnings.map LogLine.repeated).map .note := by
  rw [List.map_map]
  rfl

/-- Features that the transport gives are taken over behind the events of the answer. -/
theorem settle_of_ok {warnings : List RepeatedCutoff} {features : FeatureIndex}
    (h : t.fetchFeatures r.url = (warnings, .ok features)) :
    r.settle t = ⟨(r.complete features).request,
      r.answerEvents warnings ++ (r.complete features).events, .ok ()⟩ := by
  simp only [settle, h, answerEvents]

/-- An error that the transport gives is noted behind the events of the answer. -/
theorem settle_of_error {warnings : List RepeatedCutoff} {cause : LoadError}
    (h : t.fetchFeatures r.url = (warnings, .error cause)) :
    r.settle t = ⟨{ r with state := .failed cause },
      r.answerEvents warnings ++ [.note (.loadFailed r.url cause)], .error cause⟩ := by
  simp only [settle, h, answerEvents]

/-- A queued request whose answer can be indexed is loaded. -/
theorem load_of_indexed {warnings : List RepeatedCutoff} {features : FeatureIndex}
    (hs : r.state = .queued) (hf : t.fetchFeatures r.url = (warnings, .ok features)) :
    r.load t = ⟨(r.issued.complete features).request,
      r.issueEvents t ++ (r.answerEvents warnings ++ (r.issued.complete features).events),
      .ok ()⟩ := by
  have hsettle : r.issued.settle t = _ := settle_of_ok hf
  rw [load_of_queued t hs, hsettle]
  rfl

/-- A queued request whose answer is an error, or cannot be indexed, fails. -/
theorem load_of_failed {warnings : List RepeatedCutoff} {cause : LoadError}
    (hs : r.state = .queued) (hf : t.fetchFeatures r.url = (warnings, .error cause)) :
    r.load t = ⟨{ r with state := .failed cause },
      r.issueEvents t ++ (r.answerEvents warnings ++ [.note (.loadFailed r.url cause)]),
      .error cause⟩ := by
  have hsettle : r.issued.settle t = _ := settle_of_error hf
  rw [load_of_queued t hs, hsettle]
  rfl

end Request

end Isochrone
