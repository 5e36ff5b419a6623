import SourceEditor.Proofs.Compile.Announcements
import SourceEditor.Proofs.Compile.Attempts
import SourceEditor.Proofs.Window.History
import SourceEditor.Proofs.Window.Opened
import Mathlib.Data.List.Forall2

/-!
# What a window shows of its session

A window learns of its session by hearing its events, as any observer does, and shows an entry for
each line that it hears of. It has nothing but these events to go by, and one more act of its own:
it empties its log when a compilation begins.

* `Window.ShowsState`, `Window.Shows`: what is shown is what the session is.
* `Window.ShowsState.hear`: hearing of one event keeps the state shown, at the moment of the event.
* `Window.Shows.call`: hearing of a call keeps all shown.
* `Window.shows_session`: so it is through every history.
-/

namespace SourceEditor

namespace Window

variable {d : Desktop} {n : Nat} {w w' : Window}

/-- What a window shows of the state of its session is up to date. -/
structure ShowsState (w : Window) : Prop where
  /-- The chip has the words and the colour of the state and the connection. -/
  chip : w.chip = ((w.session.state.label w.session.connected).1,
    chipStyle (w.session.state.label w.session.connected).2)
  /-- The line below the log has the words of the state, in the same colour. -/
  result : w.result = (w.session.state.resultText, Markup.resultStyle w.session.state.resultText
    (w.session.state.label w.session.connected).2)
  /-- The window offers to compile exactly if a compilation can begin. -/
  compileEnabled : w.compileEnabled = w.session.canCompile

/-- Some entries of a log show some lines: one entry for each line, in order, in some colour. -/
def LogShows (entries lines : Array Text) : Prop :=
  List.Forall₂ (fun entry line => ∃ colour, entry = Markup.logLine line colour)
    entries.toList lines.toList

/-- What a window shows of its session is up to date. -/
structure Shows (w : Window) : Prop extends ShowsState w where
  /-- The log has one entry for each line of the session. -/
  log : LogShows w.log w.session.log

/-- An empty log shows that there are no lines. -/
theorem logShows_empty : LogShows #[] #[] :=
  .nil

/-- A log that shows some lines shows one more when it has an entry for it. -/
theorem LogShows.push {entries lines : Array Text} (h : LogShows entries lines)
    (line colour : Text) :
    LogShows (entries.push (Markup.logLine line colour)) (lines.push line) := by
  unfold LogShows
  rw [Array.toList_push, Array.toList_push]
  exact List.rel_append h (.cons ⟨colour, rfl⟩ .nil)

/-- What is shown of the state stays up to date if neither changes. -/
theorem ShowsState.congr (h : ShowsState w) (hchip : w'.chip = w.chip)
    (hresult : w'.result = w.result) (henabled : w'.compileEnabled = w.compileEnabled)
    (hstate : w'.session.state = w.session.state)
    (hconnected : w'.session.connected = w.session.connected) : ShowsState w' where
  chip := by rw [hchip, hstate, hconnected, h.chip]
  result := by rw [hresult, hstate, hconnected, h.result]
  compileEnabled := by
    rw [henabled, h.compileEnabled]
    simp only [Session.canCompile, hstate, hconnected]

/-- What is shown of the session stays up to date if neither changes. -/
theorem Shows.congr (h : Shows w) (hchip : w'.chip = w.chip) (hresult : w'.result = w.result)
    (henabled : w'.compileEnabled = w.compileEnabled) (hlog : w'.log = w.log)
    (hsession : w'.session = w.session) : Shows w' := by
  refine ⟨h.toShowsState.congr hchip hresult henabled (by rw [hsession]) (by rw [hsession]), ?_⟩
  rw [hlog, hsession]
  exact h.log

/-! ## Hearing -/

/-- A window that shows the state of its session is up to date. -/
theorem showsState_showState {w : Window} {state : CompileState} (h : w.session.state = state) :
    ShowsState (w.showState state) := by
  subst h
  exact ⟨rfl, rfl, rfl⟩

/-- Upon each event, what is shown of the state is up to date at once, if the event is announced at
its time: a window that is told the state trusts what it is told. -/
theorem ShowsState.hear (h : ShowsState w) {a : Announcement}
    (hnews : a.session.LooksLike (w.session.observe a.event)) : ShowsState (w.hear a) := by
  obtain ⟨event, session⟩ := a
  cases event with
  | state state =>
    refine showsState_showState (hnews.state.trans ?_)
    exact (w.session.observe_state_looksLike state).state.symm
  | connection connected => exact showsState_showState rfl
  | line | diagnostics => exact h.congr rfl rfl rfl hnews.state hnews.connected

/-- What is shown of the state is up to date upon each of some announcements, and so it is behind
the last of them, when the session looks as it will go on to look. -/
theorem ShowsState.announcements {s s' : Session} {announcements : List Announcement}
    (hannounced : s.Announces announcements s') (h : ShowsState w) (hsession : w.session = s) :
    (∀ k, ShowsState ((announcements.take k).foldl Window.hear w)) ∧
      ShowsState { announcements.foldl Window.hear w with session := s' } := by
  induction hannounced generalizing w with
  | done hlooks =>
    subst hsession
    simp only [List.take_nil, List.foldl_nil]
    exact ⟨fun _ => h, h.congr rfl rfl rfl hlooks.state hlooks.connected⟩
  | @next s s' a rest hnews _ ih =>
    subst hsession
    have hheard : (w.hear a).session = a.session := by
      obtain ⟨_, _, _, _, _, hhear⟩ := w.exists_hear_eq a
      rw [hhear]
    obtain ⟨heach, hlast⟩ := ih (h.hear hnews) hheard
    refine ⟨fun k => ?_, hlast⟩
    cases k with
    | zero => exact h
    | succ k => exact heach k

/-- A window whose log shows what an observer knows of the log goes on to do so, up to the beginning
of a compilation. -/
theorem LogShows.foldl_hear {announcements : List Announcement}
    (hbegin : .state .compiling ∉ announcements.map Announcement.event) {s : Session}
    (h : LogShows w.log s.log) : LogShows (announcements.foldl hear w).log
      (s.replay (announcements.map Announcement.event)).log := by
  induction announcements generalizing w s with
  | nil => exact h
  | cons a announcements ih =>
    obtain ⟨hne, hbegin⟩ := not_or.mp (mt List.mem_cons.mpr hbegin)
    refine ih hbegin ?_
    obtain ⟨event, session⟩ := a
    -- A line comes to both logs; no other event but the one excluded touches either of them.
    cases event with
    | state state =>
      cases state with
      | compiling => exact absurd rfl hne
      | done outcome => cases outcome <;> exact h
      | _ => exact h
    | line t => exact h.push t w.errorColour
    | diagnostics | connection => exact h

/-- The state is up to date after any call that the window hears of. -/
theorem ShowsState.call (h : ShowsState w) (c : Session.Call) :
    ShowsState (w.followSession (c.respond w.session)) :=
  (h.announcements (c.announces w.session) rfl).2

/-- All that a window shows is up to date after a call that begins no compilation. -/
theorem Shows.call (h : Shows w) (c : Session.Call)
    (hbegin : .state .compiling ∉ (c.respond w.session).events) :
    Shows (w.followSession (c.respond w.session)) := by
  refine ⟨h.toShowsState.call c, ?_⟩
  rw [session_followSession, ← (c.transition w.session).replay_eq]
  exact LogShows.foldl_hear hbegin h.log

/-! ## Clicks, lines and tasks -/

/-- A click on Connect is heard like any call. -/
theorem Shows.connect (h : Shows w) : Shows w.connect := by
  have hcall : Shows (w.followSession w.session.beginConnect.2) :=
    h.call .beginConnect (Session.Call.not_mem_compiling (by simp) w.session)
  unfold Window.connect
  split
  · exact h
  · dsimp only
    split
    · exact hcall.congr rfl rfl rfl rfl rfl
    · exact hcall

/-- When a compilation begins, both the session and the window forget the log. -/
theorem Shows.compile (h : Shows w) : Shows w.compile := by
  unfold Window.compile
  split
  · exact h
  · dsimp only
    split
    · next hbegin =>
      have hstate : ShowsState (w.followSession w.session.beginCompile.2) :=
        h.toShowsState.call .beginCompile
      refine ⟨⟨hstate.chip, hstate.result, hstate.compileEnabled⟩, ?_⟩
      show LogShows #[] w.session.beginCompile.2.session.log
      rw [Session.log_beginCompile hbegin]
      exact logShows_empty
    · next hbegin =>
      rw [Bool.not_eq_true] at hbegin
      exact h.call .beginCompile (Session.not_mem_compiling_beginCompile hbegin)

/-- A line comes to the log. -/
theorem Shows.takeLine (h : Shows w) (line : Text) : Shows (takeLine w line).1 := by
  rw [takeLine_eq]
  exact h.call (.compileLine line) (Session.Call.not_mem_compiling (by simp) w.session)

/-- A signal of a worker is heard like any call; none begins a compilation. -/
theorem Shows.deliver {s : Window × Thread} (h : Shows s.1) (signal : Bridge.Signal) :
    Shows (deliver s signal).1.1 := by
  rw [fst_deliver]
  exact h.call signal.call (Session.Call.not_mem_compiling signal.call_ne_beginCompile s.1.session)

/-- A thread keeps what is shown up to date while it runs; its end is not shown. -/
theorem Shows.runTask (h : Shows w) (thread : Thread) : Shows (w.runTask thread) := by
  have hrun : Shows (thread.worker.run w.client Window.deliver (w, thread) w.transport).1.1 :=
    Bridge.Worker.run_induction (P := fun s : Window × Thread => Shows s.1) w.client w.transport
      (fun s signal h => h.deliver signal) h thread.worker
  unfold Window.runTask leaveThread threadFinished
  dsimp only
  split
  · split <;> exact hrun.congr rfl rfl rfl rfl rfl
  · exact hrun.congr rfl rfl rfl rfl rfl

/-- The threads keep what is shown up to date, one after the other. -/
theorem Shows.runTasks (h : Shows w) : Shows w.runTasks := by
  have hleft : Shows { w with tasks := [] } := h.congr rfl rfl rfl rfl rfl
  exact List.foldlRecOn w.tasks Window.runTask hleft fun _ h thread _ => h.runTask thread

/-- Through every history, what a window shows of its session is what the session is. Whatever call
the session gets next, what is shown of the state is up to date upon each single announcement of the
call, and not only when the call is over. -/
theorem shows_session (h : History d n w) :
    Shows w ∧ ∀ (c : Session.Call) (k : Nat),
      ShowsState (((c.respond w.session).announcements.take k).foldl hear w) := by
  suffices hshows : Shows w from
    ⟨hshows, fun c => (hshows.toShowsState.announcements (c.announces w.session) rfl).1⟩
  refine h.induction (P := fun _ => Shows) (fun _ w w' hsame h => ?_) ?_ (fun _ _ h => h.connect)
    (fun _ _ h => h.compile) (fun _ _ h => h.runTasks) fun _ _ line h => h.takeLine line
  · exact h.congr (congrArg CompilerSide.chip hsame) (congrArg CompilerSide.result hsame)
      (congrArg CompilerSide.compileEnabled hsame) (congrArg CompilerSide.log hsame)
      (congrArg CompilerSide.session hsame)
  -- A window shows its state when it opens, and then its log and that of the session are empty.
  intro w hsession _ hlog _
  refine ⟨showsState_showState rfl, ?_⟩
  show LogShows w.log w.session.log
  rw [hlog, hsession]
  exact logShows_empty

/-- A window whose compiler wrote one line, which is no report, and then no more. -/
theorem shows_session_failure :
    let d : Desktop := { transport := { replies := [{}, { body := Utf8.encode "Main.kt" }] } }
    ∃ w, History d 1 w ∧ w.session.state = .done (.failure .noResult) ∧ w.chip.1 = "Failure" ∧
      ∃ colour, w.log.toList = [Markup.logLine "Main.kt" colour] := by
  intro d
  -- The run is computed, as far as the session goes; what the window shows of it is not.
  obtain ⟨w, hw, hbegins, hstate, hlog⟩ := exists_launch_eq (d := d) (P := fun w =>
    let connected := w.run [.connect, .runTasks]
    let compiled := connected.run [.compile, .runTasks]
    connected.beginsCompiling .compile = true ∧
      compiled.session.state = .done (.failure .noResult) ∧
      compiled.session.log = #[("Main.kt" : Text)]) (by decide +kernel)
  have hhistory : History d 1 ((w.run [.connect, .runTasks]).run [.compile, .runTasks]) :=
    (((History.launch hw).run (by simp)).compile hbegins).step .runTasks
  obtain ⟨hshows, -⟩ := shows_session hhistory
  refine ⟨_, hhistory, hstate, ?_, ?_⟩
  · rw [hshows.chip, hstate]
    rfl
  · have hentries := hshows.log
    rw [hlog, LogShows] at hentries
    obtain ⟨entry, rest, ⟨colour, rfl⟩, hrest, hentries⟩ :=
      List.forall₂_cons_right_iff.mp hentries
    rw [List.forall₂_nil_right_iff.mp hrest] at hentries
    exact ⟨colour, hentries⟩

end Window

end SourceEditor
