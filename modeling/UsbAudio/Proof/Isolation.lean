import UsbAudio.Proof.Session

/-!
# The two directions do not interfere

`USBAudioState` holds the playback half `out`, the capture half `in`, and `buffer`, which only
`usb_audio_realize` writes. Every entry point computes each half from that half and `buffer`
alone: the alt-setting switches, the SET requests, the data transfers and the demand callbacks
each read and write one direction, and a reset or a restore treats the two directions apart.
The same holds of the audio each event moves. (It does not hold of the control answers: the
capture unit's GET_CUR VOLUME reads the playback volume.)

* `Event.apply_withIn`, `Event.apply_withOut`: what one event leaves in a half does not depend on
  the other half; `Event.playbackIo_withIn`, `Event.captureIo_withOut`: nor does the audio it moves.
* `Event.OnPlayback`, `Event.OnCapture`: the events addressed to one direction, which leave the
  other half alone and move no audio on it.
* `directions_noninterfering`: two states that agree on a half (and on `buffer`) agree on it, and
  on the audio it moves, after every run.
* `directions_interleave`: a run of events addressed to one direction or the other ends in the
  state, and moves the audio, of its playback events and its capture events run apart: the
  interleaving of the two streams' traffic does not matter.
-/

namespace UsbAudio

/-- The events addressed to playback alone: `SET_INTERFACE` to an interface other than 2, a
control request to a `wIndex` other than `0x0500`, a data transfer other than an IN token, and
`output_callback`. -/
def Event.OnPlayback : Event → Prop
  | .setInterface iface _ => iface ≠ 2
  | .control _ _ index _ => index ≠ 0x0500
  | .data p => p.pid ≠ .tokenIn
  | .output _ => True
  | _ => False

/-- The events addressed to capture alone: `SET_INTERFACE` to interface 2, a control request to
`wIndex` `0x0500`, an IN token, and `input_callback`. -/
def Event.OnCapture : Event → Prop
  | .setInterface iface _ => iface = 2
  | .control _ _ index _ => index = 0x0500
  | .data p => p.pid = .tokenIn
  | .input _ _ => True
  | _ => False

instance : DecidablePred Event.OnPlayback
  | .setInterface iface _ => inferInstanceAs (Decidable (iface ≠ 2))
  | .control _ _ index _ => inferInstanceAs (Decidable (index ≠ 0x0500))
  | .data p => inferInstanceAs (Decidable (p.pid ≠ .tokenIn))
  | .output _ => inferInstanceAs (Decidable True)
  | .reset | .input _ _ | .restore _ => inferInstanceAs (Decidable False)

instance : DecidablePred Event.OnCapture
  | .setInterface iface _ => inferInstanceAs (Decidable (iface = 2))
  | .control _ _ index _ => inferInstanceAs (Decidable (index = 0x0500))
  | .data p => inferInstanceAs (Decidable (p.pid = .tokenIn))
  | .input _ _ => inferInstanceAs (Decidable True)
  | .reset | .output _ | .restore _ => inferInstanceAs (Decidable False)

theorem Event.not_onCapture {e : Event} (h : e.OnPlayback) : ¬e.OnCapture := by
  cases e <;> simp_all [Event.OnPlayback, Event.OnCapture]

variable {s t : USBAudioState}

/-- A state is another with its capture half replaced, when the two share the rest. -/
theorem USBAudioState.eq_withIn (h1 : t.out = s.out) (h2 : t.buffer = s.buffer) :
    t = { s with «in» := t.in } := by
  cases s; cases t; simp only at h1 h2; subst h1 h2; rfl

/-- A state is another with its playback half replaced, when the two share the rest. -/
theorem USBAudioState.eq_withOut (h1 : t.in = s.in) (h2 : t.buffer = s.buffer) :
    t = { s with out := t.out } := by
  cases s; cases t; simp only at h1 h2; subst h1 h2; rfl

/-! ## The control requests -/

theorem usbAudioSetControl_withIn (x : Stream (BitVec 8)) (attrib : BitVec 8) (cscn idif : BitVec 16)
    (data : List UInt8) :
    ((usbAudioSetControl { s with «in» := x } attrib cscn idif data).getD { s with «in» := x }).out =
      ((usbAudioSetControl s attrib cscn idif data).getD s).out := by
  unfold usbAudioSetControl; dsimp only; split_ifs <;> rfl

theorem usbAudioSetControl_withOut (y : Stream (BitVec 8 × BitVec 8)) (attrib : BitVec 8)
    (cscn idif : BitVec 16) (data : List UInt8) :
    ((usbAudioSetControl { s with out := y } attrib cscn idif data).getD { s with out := y }).in =
      ((usbAudioSetControl s attrib cscn idif data).getD s).in := by
  unfold usbAudioSetControl; dsimp only; split_ifs <;> rfl

theorem usbAudioHandleControl_withIn (x : Stream (BitVec 8)) (request value index : BitVec 16)
    (data : List UInt8) :
    (usbAudioHandleControl { s with «in» := x } request value index data).1.out =
      (usbAudioHandleControl s request value index data).1.out := by
  have h := usbAudioSetControl_withIn (s := s) x (request.setWidth 8) value index data
  unfold usbAudioHandleControl; dsimp only
  split_ifs
  · split <;> split <;> rfl
  · split <;> split <;> simp_all
  · rfl

theorem usbAudioHandleControl_withOut (y : Stream (BitVec 8 × BitVec 8))
    (request value index : BitVec 16) (data : List UInt8) :
    (usbAudioHandleControl { s with out := y } request value index data).1.in =
      (usbAudioHandleControl s request value index data).1.in := by
  have h := usbAudioSetControl_withOut (s := s) y (request.setWidth 8) value index data
  unfold usbAudioHandleControl; dsimp only
  split_ifs
  · split <;> split <;> rfl
  · split <;> split <;> simp_all
  · rfl

/-- What an OUT transfer answers does not depend on the capture half. -/
theorem usbAudioHandleDataout_withIn (x : Stream (BitVec 8)) (p : USBPacket) :
    (usbAudioHandleDataout { s with «in» := x } p).2 = (usbAudioHandleDataout s p).2 := by
  unfold usbAudioHandleDataout
  rcases p.outPayload with _ | c <;> split_ifs <;> rfl

/-! ## One event -/

/-- No event writes `buffer`. -/
@[simp] theorem Event.apply_buffer (e : Event) (s : USBAudioState) : (e.apply s).buffer = s.buffer := by
  cases e with
  | control request value index data =>
    show (usbAudioHandleControl s request value index data).1.buffer = s.buffer
    rcases usbAudioHandleControl_cases (s := s) request value index data with h | h
    · rw [h]
    · rcases usbAudioSetControl_eq_some h with ⟨-, m, v, h'⟩ | ⟨-, m, v, h'⟩ <;> rw [h']
  | data p =>
    show (usbAudioHandleData s p).1.buffer = s.buffer
    rcases usbAudioHandleData_cases (s := s) p with h | ⟨-, b, h⟩ | ⟨-, b, h⟩ <;> rw [h]
  | setInterface iface value =>
    simp only [Event.apply, usbAudioSetInterface]
    split_ifs <;> simp only [usbAudioSetOutputAltset_getD, usbAudioSetInputAltset_getD]
  | _ => simp only [Event.apply, usbAudioHandleReset, usbAudioPostLoad, Snapshot.load, outputCallback,
      inputCallback, Stream.pushVolume_altset, usbAudioSetOutputAltset_getD, usbAudioSetInputAltset_getD]

/-- **The playback half an event leaves does not depend on the capture half.** -/
theorem Event.apply_withIn (e : Event) (s : USBAudioState) (x : Stream (BitVec 8)) :
    (e.apply { s with «in» := x }).out = (e.apply s).out := by
  cases e with
  | data p =>
    simp only [Event.apply, usbAudioHandleData, usbAudioHandleDataout, usbAudioHandleDatain]
    split_ifs <;> (try split) <;> (try split) <;> rfl
  | setInterface iface value =>
    simp only [Event.apply, usbAudioSetInterface]
    split_ifs <;> simp only [usbAudioSetOutputAltset_getD, usbAudioSetInputAltset_getD]
  | control request value index data => exact usbAudioHandleControl_withIn x request value index data
  | _ => simp only [Event.apply, usbAudioHandleReset, usbAudioPostLoad, Snapshot.load, outputCallback,
      inputCallback, Stream.pushVolume_altset, usbAudioSetOutputAltset_getD, usbAudioSetInputAltset_getD]

/-- **The capture half an event leaves does not depend on the playback half.** -/
theorem Event.apply_withOut (e : Event) (s : USBAudioState) (y : Stream (BitVec 8 × BitVec 8)) :
    (e.apply { s with out := y }).in = (e.apply s).in := by
  cases e with
  | data p =>
    simp only [Event.apply, usbAudioHandleData, usbAudioHandleDataout, usbAudioHandleDatain]
    split_ifs <;> (try split) <;> rfl
  | setInterface iface value =>
    simp only [Event.apply, usbAudioSetInterface]
    split_ifs <;> simp only [usbAudioSetOutputAltset_getD, usbAudioSetInputAltset_getD]
  | control request value index data => exact usbAudioHandleControl_withOut y request value index data
  | _ => simp only [Event.apply, usbAudioHandleReset, usbAudioPostLoad, Snapshot.load, outputCallback,
      inputCallback, Stream.pushVolume_altset, usbAudioSetOutputAltset_getD, usbAudioSetInputAltset_getD]

/-- An event addressed to playback leaves the capture half alone and moves no capture audio. -/
theorem Event.onPlayback_frame {e : Event} (h : e.OnPlayback) :
    (e.apply s).in = s.in ∧ e.captureIo s = ([], []) := by
  cases e with
  | setInterface iface value =>
    refine ⟨?_, rfl⟩
    simp only [Event.apply, usbAudioSetInterface]
    split_ifs with h1 h2
    · simp [usbAudioSetOutputAltset_getD]
    · exact absurd h2 h
    · rfl
  | control request value index data =>
    refine ⟨?_, rfl⟩
    show (usbAudioHandleControl s request value index data).1.in = s.in
    rcases usbAudioHandleControl_cases (s := s) request value index data with he | he
    · rw [he]
    · rcases usbAudioSetControl_eq_some he with ⟨-, m, v, h'⟩ | ⟨hi, -⟩
      · rw [h']
      · exact absurd hi h
  | data p =>
    rcases usbAudioHandleData_route (s := s) p with ⟨-, -, hd⟩ | ⟨hi, -, -⟩ | ⟨-, -, hd⟩
    · exact ⟨by simp only [Event.apply, hd, usbAudioHandleDataout_in], Event.captureIo_dataout hd⟩
    · exact absurd hi h
    · simp [Event.apply, Event.captureIo, hd]
  | output avail => exact ⟨rfl, rfl⟩
  | _ => exact h.elim

/-- An event addressed to capture leaves the playback half alone and moves no playback audio. -/
theorem Event.onCapture_frame {e : Event} (h : e.OnCapture) :
    (e.apply s).out = s.out ∧ e.playbackIo s = ([], []) := by
  cases e with
  | setInterface iface value =>
    have h2 : iface = 2#32 := h
    simp only [Event.apply, usbAudioSetInterface, h2, if_neg (by decide : (2#32 : BitVec 32) ≠ 1),
      if_true]
    simp [usbAudioSetInputAltset_getD, Event.playbackIo]
  | control request value index data =>
    refine ⟨?_, rfl⟩
    show (usbAudioHandleControl s request value index data).1.out = s.out
    rcases usbAudioHandleControl_cases (s := s) request value index data with he | he
    · rw [he]
    · rcases usbAudioSetControl_eq_some he with ⟨hi, -⟩ | ⟨-, m, v, h'⟩
      · exact absurd (hi.symm.trans h) (by decide)
      · rw [h']
  | data p =>
    have hp : p.pid = .tokenIn := h
    rcases usbAudioHandleData_route (s := s) p with ⟨ho, -, -⟩ | ⟨-, -, hd⟩ | ⟨-, -, hd⟩
    · exact absurd (hp.symm.trans ho) (by decide)
    · simp [Event.apply, Event.playbackIo, hd, hp]
    · simp [Event.apply, Event.playbackIo, hd]
  | input avail pcm => exact ⟨rfl, rfl⟩
  | _ => exact h.elim

/-- The playback audio an event moves does not depend on the capture half. -/
theorem Event.playbackIo_withIn (e : Event) (s : USBAudioState) (x : Stream (BitVec 8)) :
    e.playbackIo { s with «in» := x } = e.playbackIo s := by
  cases e with
  | data p =>
    by_cases hp : p.pid = .tokenOut
    · simp only [Event.playbackIo, usbAudioHandleData, hp, true_and, reduceCtorEq, false_and,
        if_false]
      by_cases he : p.ep = 1
      · simp only [if_pos he, usbAudioHandleDataout_withIn]
      · simp only [if_neg he]
    · simp [Event.playbackIo, hp]
  | _ => rfl

/-- The capture audio an event moves does not depend on the playback half. -/
theorem Event.captureIo_withOut (e : Event) (s : USBAudioState) (y : Stream (BitVec 8 × BitVec 8)) :
    e.captureIo { s with out := y } = e.captureIo s := by
  cases e with
  | data p =>
    by_cases hp : p.pid = .tokenIn
    · have hd : (usbAudioHandleData { s with out := y } p).2 = (usbAudioHandleData s p).2 := by
        simp only [usbAudioHandleData, usbAudioHandleDatain, hp, true_and, reduceCtorEq, false_and,
          if_false]
        split_ifs <;> try rfl
        rcases datainGet s.in.buf p.size with _ | ⟨b, o, bs⟩ <;> rfl
      simp only [Event.captureIo, hd]
    · have hp' : (Event.data p).OnPlayback := hp
      rw [(Event.onPlayback_frame hp').2, (Event.onPlayback_frame hp').2]
  | _ => rfl

/-! ## Every run -/

/-- Over every run, the playback half and the playback audio do not depend on the capture
half. -/
theorem runEvents_withIn (es : List Event) : ∀ (s : USBAudioState) (x : Stream (BitVec 8)),
    (runEvents { s with «in» := x } es).out = (runEvents s es).out ∧
      playbackIoOf { s with «in» := x } es = playbackIoOf s es := by
  induction es with
  | nil => intro s x; exact ⟨rfl, rfl⟩
  | cons e es ih =>
    intro s x
    have he : e.apply { s with «in» := x } =
        { e.apply s with «in» := (e.apply { s with «in» := x }).in } :=
      USBAudioState.eq_withIn (e.apply_withIn s x) (by simp)
    obtain ⟨h1, h2⟩ := ih (e.apply s) (e.apply { s with «in» := x }).in
    rw [runEvents_cons, runEvents_cons, playbackIoOf, playbackIoOf, he, h1, h2,
      e.playbackIo_withIn]
    exact ⟨rfl, rfl⟩

/-- Over every run, the capture half and the capture audio do not depend on the playback
half. -/
theorem runEvents_withOut (es : List Event) : ∀ (s : USBAudioState) (y : Stream (BitVec 8 × BitVec 8)),
    (runEvents { s with out := y } es).in = (runEvents s es).in ∧
      captureIoOf { s with out := y } es = captureIoOf s es := by
  induction es with
  | nil => intro s y; exact ⟨rfl, rfl⟩
  | cons e es ih =>
    intro s y
    have he : e.apply { s with out := y } =
        { e.apply s with out := (e.apply { s with out := y }).out } :=
      USBAudioState.eq_withOut (e.apply_withOut s y) (by simp)
    obtain ⟨h1, h2⟩ := ih (e.apply s) (e.apply { s with out := y }).out
    rw [runEvents_cons, runEvents_cons, captureIoOf, captureIoOf, he, h1, h2,
      e.captureIo_withOut]
    exact ⟨rfl, rfl⟩

/-- What follows a playback event on the capture side is as if it had not happened. -/
theorem runEvents_apply_onPlayback {e : Event} (h : e.OnPlayback) (es : List Event) :
    (runEvents (e.apply s) es).in = (runEvents s es).in ∧
      captureIoOf (e.apply s) es = captureIoOf s es := by
  rw [USBAudioState.eq_withOut (Event.onPlayback_frame h).1 (e.apply_buffer s)]
  exact runEvents_withOut es s _

/-- What follows a capture event on the playback side is as if it had not happened. -/
theorem runEvents_apply_onCapture {e : Event} (h : e.OnCapture) (es : List Event) :
    (runEvents (e.apply s) es).out = (runEvents s es).out ∧
      playbackIoOf (e.apply s) es = playbackIoOf s es := by
  rw [USBAudioState.eq_withIn (Event.onCapture_frame h).1 (e.apply_buffer s)]
  exact runEvents_withIn es s _

/-- **Neither direction interferes with the other.** For every run of events and every two states
with the same `buffer`: if they agree on the playback half, then after the run they still agree on
it and the run took in and played back the same audio on both; likewise for the capture half and
the captured audio. Resets, interface changes and restores included. -/
theorem directions_noninterfering (es : List Event) (s t : USBAudioState)
    (hb : s.buffer = t.buffer) :
    (s.out = t.out →
      (runEvents s es).out = (runEvents t es).out ∧ playbackIoOf s es = playbackIoOf t es) ∧
    (s.in = t.in →
      (runEvents s es).in = (runEvents t es).in ∧ captureIoOf s es = captureIoOf t es) := by
  constructor
  · intro ho
    rw [USBAudioState.eq_withIn ho.symm hb.symm]
    have h := runEvents_withIn es s t.in
    exact ⟨h.1.symm, h.2.symm⟩
  · intro hi
    rw [USBAudioState.eq_withOut hi.symm hb.symm]
    have h := runEvents_withOut es s t.out
    exact ⟨h.1.symm, h.2.symm⟩

/-- The device `usb_audio_realize` leaves, with `s->buffer` at 0 and zeroed memory. -/
def idleDevice : USBAudioState := usbAudioRealize 0 fun _ => 0

/-- `idleDevice` with capture switched on and two packets captured. -/
def captureFilled : USBAudioState := runEvents idleDevice (captureSession.take 2)

/-- `idleDevice` with playback switched on. -/
def playbackOn : USBAudioState := (Event.setInterface 1 altsetOn).apply idleDevice

/-- `idleDevice` and `captureFilled` agree on playback, so the playback session does the same from
both; `idleDevice` and `playbackOn` agree on capture, so the capture session does the same from
both. -/
theorem directions_noninterfering_realize :
    idleDevice.buffer = captureFilled.buffer ∧ idleDevice.out = captureFilled.out ∧
      ((runEvents idleDevice playbackSession).out = (runEvents captureFilled playbackSession).out ∧
        playbackIoOf idleDevice playbackSession = playbackIoOf captureFilled playbackSession) ∧
      idleDevice.buffer = playbackOn.buffer ∧ idleDevice.in = playbackOn.in ∧
      ((runEvents idleDevice captureSession).in = (runEvents playbackOn captureSession).in ∧
        captureIoOf idleDevice captureSession = captureIoOf playbackOn captureSession) :=
  have hb : idleDevice.buffer = captureFilled.buffer := rfl
  have ho : idleDevice.out = captureFilled.out := rfl
  have hb' : idleDevice.buffer = playbackOn.buffer := rfl
  have hi : idleDevice.in = playbackOn.in := rfl
  ⟨hb, ho, (directions_noninterfering playbackSession _ _ hb).1 ho, hb', hi,
    (directions_noninterfering captureSession _ _ hb').2 hi⟩

/-- **The interleaving of the two directions' traffic does not matter.** For every state and
every run of events each addressed to playback or to capture: the run ends with the playback half
its playback events alone leave, the capture half its capture events alone leave, and the rest
unchanged; and it moves the playback audio of its playback events alone and the capture audio of
its capture events alone. -/
theorem directions_interleave (s : USBAudioState) (es : List Event)
    (h : ∀ e ∈ es, e.OnPlayback ∨ e.OnCapture) :
    runEvents s es = { s with out := (runEvents s (es.filter (decide ·.OnPlayback))).out,
                              «in» := (runEvents s (es.filter (decide ·.OnCapture))).in } ∧
      playbackIoOf s es = playbackIoOf s (es.filter (decide ·.OnPlayback)) ∧
      captureIoOf s es = captureIoOf s (es.filter (decide ·.OnCapture)) := by
  induction es generalizing s with
  | nil => exact ⟨rfl, rfl, rfl⟩
  | cons e es ih =>
    obtain ⟨h1, h2, h3⟩ := ih (e.apply s) fun e' he' => h e' (List.mem_cons_of_mem _ he')
    rcases h e (List.mem_cons_self _ _) with hp | hc
    · -- a playback event: it heads the playback events, and the capture side runs as without it
      have hr := runEvents_apply_onPlayback (s := s) hp (es.filter (decide ·.OnCapture))
      have hP : (e :: es).filter (decide ·.OnPlayback) = e :: es.filter (decide ·.OnPlayback) := by
        simp [hp]
      have hC : (e :: es).filter (decide ·.OnCapture) = es.filter (decide ·.OnCapture) := by
        simp [Event.not_onCapture hp]
      rw [hP, hC]
      simp only [runEvents_cons, playbackIoOf, captureIoOf, (Event.onPlayback_frame hp).2,
        List.nil_append]
      refine ⟨?_, by rw [h2], by rw [h3, hr.2]⟩
      rw [h1, hr.1]
      simp
    · -- a capture event: symmetrically
      have hnp : ¬e.OnPlayback := fun hp => Event.not_onCapture hp hc
      have hr := runEvents_apply_onCapture (s := s) hc (es.filter (decide ·.OnPlayback))
      have hP : (e :: es).filter (decide ·.OnPlayback) = es.filter (decide ·.OnPlayback) := by
        simp [hnp]
      have hC : (e :: es).filter (decide ·.OnCapture) = e :: es.filter (decide ·.OnCapture) := by
        simp [hc]
      rw [hP, hC]
      simp only [runEvents_cons, playbackIoOf, captureIoOf, (Event.onCapture_frame hc).2,
        List.nil_append]
      refine ⟨?_, by rw [h2, hr.2], by rw [h3]⟩
      rw [h1, hr.1]
      simp

/-- A playback session and a capture session interleaved. -/
def mixedSession : List Event :=
  [.setInterface 1 altsetOn, .setInterface 2 altsetOn,
    .data silentOut, .input 385 (fun _ => zeroChunk), .data silentOut, .data packetIn,
    .output usbaudioPacketSize]

theorem directions_interleave_realize :
    (∀ e ∈ mixedSession, e.OnPlayback ∨ e.OnCapture) ∧
      runEvents (usbAudioRealize 0 fun _ => 0) mixedSession =
        { usbAudioRealize 0 fun _ => 0 with
          out := (runEvents (usbAudioRealize 0 fun _ => 0)
            (mixedSession.filter (decide ·.OnPlayback))).out,
          «in» := (runEvents (usbAudioRealize 0 fun _ => 0)
            (mixedSession.filter (decide ·.OnCapture))).in } ∧
      playbackIoOf (usbAudioRealize 0 fun _ => 0) mixedSession =
        playbackIoOf (usbAudioRealize 0 fun _ => 0) (mixedSession.filter (decide ·.OnPlayback)) ∧
      captureIoOf (usbAudioRealize 0 fun _ => 0) mixedSession =
        captureIoOf (usbAudioRealize 0 fun _ => 0) (mixedSession.filter (decide ·.OnCapture)) :=
  have h : ∀ e ∈ mixedSession, e.OnPlayback ∨ e.OnCapture := by decide
  ⟨h, directions_interleave _ _ h⟩

end UsbAudio
