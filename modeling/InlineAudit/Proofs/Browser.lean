import InlineAudit.Browser

/-!
The browser under any keys and window sizes. What a message can do is said once; so every message
keeps the cursor on an issue and leaves room for a row, and both hold in all states that messages
lead to. In such a state the window is a full part of the list with the cursor in it. What is shown
is then the issue under the cursor, or the rows of the window, of which just the one of the cursor
is selected.
-/

namespace InlineAudit

namespace Browser

/-- The browser after some messages. -/
def after (browser : Browser) (messages : List Message) : Browser :=
  messages.foldl (fun browser message => (browser.update message).1) browser

/-- The messages that make a browser quit. -/
def Message.Quits (message : Message) : Prop := ∃ key ∈ ["q", "esc", "ctrl+c"], message = .key key

theorem Message.quits_key_iff {name : String} :
    (Message.key name).Quits ↔ quitKeys.contains name = true := by
  simp [Quits, quitKeys]

/-! ### Steps -/

/-- A key moves the cursor within the issues or switches the details, and does nothing else. -/
theorem move_eq (browser : Browser) (key : String) :
    ∃ cursor detail, browser.move key = { browser with cursor := cursor, detail := detail } ∧
      (browser.cursor ≤ browser.report.issues.length - 1 →
        cursor ≤ browser.report.issues.length - 1) := by
  unfold move
  split
  case h_1 | h_2 =>
    dsimp only
    split
    · exact ⟨browser.cursor + 1, browser.detail, rfl, fun _ => by omega⟩
    · exact ⟨browser.cursor, browser.detail, rfl, id⟩
  case h_3 | h_4 => exact ⟨browser.cursor - 1, browser.detail, rfl, fun _ => by omega⟩
  case h_5 | h_6 => exact ⟨0, browser.detail, rfl, fun _ => Nat.zero_le _⟩
  case h_7 | h_8 => exact ⟨_, browser.detail, rfl, fun _ => Nat.le_refl _⟩
  case h_9 | h_10 => exact ⟨browser.cursor, !browser.detail, rfl, id⟩
  case h_11 => exact ⟨browser.cursor, browser.detail, rfl, id⟩

/-- What a message can do: it quits, resizes, or moves within the issues; and only then is there a
request when it quits. -/
theorem update_cases (browser : Browser) (message : Message) :
    message.Quits ∧ browser.update message = ({ browser with quitting := true }, some .quit) ∨
    ¬message.Quits ∧ ∃ cursor detail height,
      browser.update message =
        ({ browser with cursor := cursor, detail := detail, height := height }, none) ∧
      (browser.cursor ≤ browser.report.issues.length - 1 →
        cursor ≤ browser.report.issues.length - 1) ∧
      (1 ≤ browser.height → 1 ≤ height) := by
  cases message with
  | resize height =>
    refine Or.inr ⟨by simp [Message.Quits], browser.cursor, browser.detail, roomIn height, rfl, id,
      fun _ => ?_⟩
    have hmax := Int.le_max_right (Int.bmod (height - 4) (1 <<< 64)) 1
    rw [roomIn]
    omega
  | key name =>
    rw [update, Message.quits_key_iff]
    by_cases hquits : quitKeys.contains name = true
    · rw [if_pos hquits]
      exact Or.inl ⟨hquits, rfl⟩
    · obtain ⟨cursor, detail, hmove, hcursor⟩ := browser.move_eq name
      rw [if_neg hquits, hmove]
      exact Or.inr ⟨hquits, cursor, detail, browser.height, rfl, hcursor, id⟩

theorem update_report (browser : Browser) (message : Message) :
    (browser.update message).1.report = browser.report := by
  obtain ⟨-, heq⟩ | ⟨-, cursor, detail, height, heq, -⟩ := browser.update_cases message <;>
    rw [heq]

theorem update_request (browser : Browser) (message : Message) :
    (browser.update message).2 = some .quit ↔ message.Quits := by
  obtain ⟨hquits, heq⟩ | ⟨hquits, cursor, detail, height, heq, -⟩ :=
    browser.update_cases message <;> simp [heq, hquits]

theorem update_quitting (browser : Browser) (message : Message) :
    (browser.update message).1.quitting = true ↔ browser.quitting = true ∨ message.Quits := by
  obtain ⟨hquits, heq⟩ | ⟨hquits, cursor, detail, height, heq, -⟩ :=
    browser.update_cases message <;> simp [heq, hquits]

/-! ### Runs -/

theorem after_report (browser : Browser) (messages : List Message) :
    (browser.after messages).report = browser.report := by
  induction messages generalizing browser with
  | nil => rfl
  | cons message messages ih => exact (ih _).trans (browser.update_report message)

/-- A browser quits once it gets a message that makes it, and never goes back. -/
theorem after_quitting (browser : Browser) (messages : List Message) :
    (browser.after messages).quitting = true ↔
      browser.quitting = true ∨ ∃ message ∈ messages, message.Quits := by
  induction messages generalizing browser with
  | nil => simp [after]
  | cons message messages ih =>
    simp only [List.mem_cons, exists_eq_or_imp]
    rw [← or_assoc, ← browser.update_quitting message]
    exact ih _

/-- The cursor is on an issue, if there is one, and there is room for a row. -/
structure Sound (browser : Browser) : Prop where
  cursor_lt : browser.report.issues ≠ [] → browser.cursor < browser.report.issues.length
  cursor_eq : browser.report.issues = [] → browser.cursor = 0
  height_pos : 1 ≤ browser.height

theorem Sound.start (report : Report) : Sound { report := report } where
  cursor_lt h := List.length_pos_iff.mpr h
  cursor_eq _ := rfl
  height_pos := Nat.le_add_left 1 19

theorem Sound.update {browser : Browser} (h : browser.Sound) (message : Message) :
    (browser.update message).1.Sound := by
  have hle : browser.cursor ≤ browser.report.issues.length - 1 := by
    by_cases hissues : browser.report.issues = []
    · rw [h.cursor_eq hissues]
      exact Nat.zero_le _
    · exact Nat.le_sub_one_of_lt (h.cursor_lt hissues)
  obtain ⟨-, heq⟩ | ⟨-, cursor, detail, height, heq, hcursor, hheight⟩ :=
    browser.update_cases message
  · rw [heq]
    exact ⟨h.cursor_lt, h.cursor_eq, h.height_pos⟩
  · rw [heq]
    refine ⟨fun hne => ?_, fun hnil => ?_, hheight h.height_pos⟩
    · exact Nat.lt_of_le_sub_one (List.length_pos_iff.mpr hne) (hcursor hle)
    · have hzero := hcursor hle
      rw [show browser.report.issues = [] from hnil] at hzero
      exact Nat.le_zero.mp hzero

theorem Sound.after {browser : Browser} (h : browser.Sound) (messages : List Message) :
    (browser.after messages).Sound := by
  induction messages generalizing browser with
  | nil => exact h
  | cons message messages ih => exact ih (h.update message)

/-! ### The window -/

/-- The window is a part of the list, as large as there is room for, and the cursor is in it. -/
structure Framed (browser : Browser) : Prop where
  start_le : browser.window.1 ≤ browser.window.2
  stop_le : browser.window.2 ≤ browser.report.issues.length
  size_eq : browser.window.2 - browser.window.1 = min browser.report.issues.length browser.height
  has_cursor : browser.report.issues ≠ [] →
    browser.window.1 ≤ browser.cursor ∧ browser.cursor < browser.window.2

theorem Sound.framed {browser : Browser} (h : browser.Sound) : browser.Framed := by
  have hpos := h.height_pos
  have hcursor := h.cursor_lt
  -- With the start named, both cases are arithmetic.
  obtain ⟨start, hstart⟩ : ∃ start, start = min (browser.cursor - browser.height / 2)
      (browser.report.issues.length - browser.height) := ⟨_, rfl⟩
  have hwindow : browser.window = if browser.report.issues.length ≤ browser.height
      then (0, browser.report.issues.length) else (start, start + browser.height) := by
    rw [hstart]
    rfl
  split at hwindow
  all_goals
    have hfst := congrArg Prod.fst hwindow
    have hsnd := congrArg Prod.snd hwindow
    dsimp only at hfst hsnd
    refine ⟨by omega, by omega, by omega, fun hne => ?_⟩
    have hlt := hcursor hne
    omega

/-! ### What is shown -/

/-- Away from the cursor no row is selected. -/
theorem rows_unselected (finish : Finish) {cursor first : Nat} {issues : List Issue}
    (h : cursor < first ∨ first + issues.length ≤ cursor) :
    (issues.zipIdx first).map (fun (issue, index) => row finish (index = cursor) issue) =
      issues.map (row finish false) := by
  induction issues generalizing first with
  | nil => rfl
  | cons issue rest ih =>
    rw [List.length_cons] at h
    have hne : ¬first = cursor := by omega
    rw [List.zipIdx_cons, List.map_cons, List.map_cons, ih (by omega)]
    dsimp only
    rw [decide_eq_false hne]

/-- A list around a place in a part of it. -/
theorem exists_around {α : Type} {l : List α} {start place stop : Nat} (hstart : start ≤ place)
    (hplace : place < stop) (hstop : stop ≤ l.length) :
    ∃ above before a after below, l = above ++ (before ++ a :: after) ++ below ∧
      above.length = start ∧ above.length + before.length = place ∧
      above.length + (before.length + (after.length + 1)) = stop := by
  have hcut (l : List α) (n : Nat) (h : n ≤ l.length) :
      ∃ front back, l = front ++ back ∧ front.length = n :=
    ⟨l.take n, l.drop n, (List.take_append_drop n l).symm, List.length_take_of_le h⟩
  obtain ⟨visible, below, rfl, hvisible⟩ := hcut l stop hstop
  obtain ⟨above, rest, rfl, habove⟩ := hcut visible start (by omega)
  rw [List.length_append] at hvisible
  obtain ⟨before, rest, rfl, hbefore⟩ := hcut rest (place - start) (by omega)
  rw [List.length_append] at hvisible
  cases rest with
  | nil =>
    rw [List.length_nil] at hvisible
    omega
  | cons a after =>
    rw [List.length_cons] at hvisible
    exact ⟨above, before, a, after, below, rfl, habove, by omega, by omega⟩

/-- The rows of a window with the cursor in it. -/
theorem listRows_eq (finish : Finish) {browser : Browser}
    {above before after below : List Issue} {issue : Issue}
    (hissues : browser.report.issues = above ++ (before ++ issue :: after) ++ below)
    (hstart : above.length = browser.window.1)
    (hcursor : above.length + before.length = browser.cursor)
    (hstop : above.length + (before.length + (after.length + 1)) = browser.window.2) :
    browser.listRows finish =
      before.map (row finish false) ++ row finish true issue :: after.map (row finish false) := by
  have hvisible : (browser.report.issues.zipIdx.take browser.window.2).drop browser.window.1 =
      (before ++ issue :: after).zipIdx above.length := by
    rw [hissues, List.zipIdx_append, List.zipIdx_append, ← hstart, ← hstop, Nat.zero_add]
    rw [List.take_left' (by simp), List.drop_left' (by simp)]
  have hrows : browser.listRows finish =
      ((before ++ issue :: after).zipIdx above.length).map fun (issue, index) =>
        row finish (index = browser.cursor) issue := by
    rw [← hvisible]
    rfl
  rw [hrows, List.zipIdx_append, List.map_append, List.zipIdx_cons, List.map_cons,
    rows_unselected finish (Or.inr (Nat.le_of_eq hcursor)),
    rows_unselected finish (Or.inl (by omega))]
  dsimp only
  rw [decide_eq_true hcursor]

/-- What is shown between heading and hint: the issue under the cursor, or the rows of the window,
of which exactly the one under the cursor is selected. -/
structure ShowsCursor (finish : Finish) (browser : Browser) : Prop where
  empty : browser.report.issues = [] → browser.body finish = "No inline suppressions found\n"
  details : browser.report.issues ≠ [] → browser.detail = true →
    ∃ issue, browser.report.issues[browser.cursor]? = some issue ∧
      browser.body finish = Browser.details issue
  rows : browser.report.issues ≠ [] → browser.detail = false →
    ∃ above before issue after below,
      browser.report.issues = above ++ (before ++ issue :: after) ++ below ∧
      above.length = browser.window.1 ∧
      above.length + before.length = browser.cursor ∧
      above.length + (before.length + (after.length + 1)) = browser.window.2 ∧
      browser.body finish = String.join
        (before.map (row finish false) ++ row finish true issue :: after.map (row finish false))

theorem Framed.showsCursor {browser : Browser} (h : browser.Framed) (finish : Finish) :
    browser.ShowsCursor finish where
  empty hnil := by
    rw [body, List.isEmpty_iff.mpr hnil, if_pos rfl]
  details hne hdetail := by
    have hlt := Nat.lt_of_lt_of_le (h.has_cursor hne).2 h.stop_le
    refine ⟨_, List.getElem?_eq_getElem hlt, ?_⟩
    rw [body, List.isEmpty_eq_false_iff.mpr hne, hdetail, List.getElem?_eq_getElem hlt]
    rfl
  rows hne hdetail := by
    obtain ⟨hstart, hcursor⟩ := h.has_cursor hne
    have hstop := h.stop_le
    obtain ⟨above, before, issue, after, below, hissues, habove, hplace, hend⟩ :=
      exists_around hstart hcursor h.stop_le
    refine ⟨above, before, issue, after, below, hissues, habove, hplace, hend, ?_⟩
    rw [body, List.isEmpty_eq_false_iff.mpr hne, hdetail]
    exact congrArg String.join (listRows_eq finish hissues habove hplace hend)

/-- What is promised of a browser over a report after some messages. -/
structure Behaves (report : Report) (messages : List Message) (browser : Browser) : Prop where
  report_eq : browser.report = report
  sound : browser.Sound
  framed : browser.Framed
  shows : ∀ finish, browser.ShowsCursor finish
  view_eq : browser.quitting = false → ∀ finish,
    browser.view finish =
      heading finish report ++ "\n\n" ++ browser.body finish ++ "\n" ++ hint finish
  /-- The browser asks to quit on the keys for it and on nothing else. -/
  request_iff : ∀ message, (browser.update message).2 = some .quit ↔
    ∃ key ∈ ["q", "esc", "ctrl+c"], message = .key key
  quitting_iff : browser.quitting = true ↔
    ∃ message ∈ messages, ∃ key ∈ ["q", "esc", "ctrl+c"], message = .key key
  /-- Once it quits, it goes on quitting and shows nothing. -/
  quits : browser.quitting = true → ∀ more finish,
    (browser.after more).quitting = true ∧ (browser.after more).view finish = ""

end Browser

/-- In every state that keys and changes of the window size lead to, the cursor is on an issue if
there is one, the window is a full part of the list that holds the cursor, and what is shown is the
issue under the cursor or the window with the row of the cursor as the only selected one. -/
theorem browser_behaves (report : Report) (messages : List Browser.Message) :
    Browser.Behaves report messages (({ report := report } : Browser).after messages) where
  report_eq := Browser.after_report _ messages
  sound := (Browser.Sound.start report).after messages
  framed := ((Browser.Sound.start report).after messages).framed
  shows := ((Browser.Sound.start report).after messages).framed.showsCursor
  view_eq hopen finish := by
    rw [Browser.view, hopen, Browser.after_report]
    rfl
  request_iff := Browser.update_request _
  quitting_iff := by
    rw [Browser.after_quitting]
    exact or_iff_right Bool.false_ne_true
  quits hquits more finish := by
    have hlater := (Browser.after_quitting _ more).mpr (Or.inl hquits)
    exact ⟨hlater, by rw [Browser.view, hlater, if_pos rfl]⟩

/-- Fifty issues in a window with ten rows: the last row is no reason to show fewer. -/
example : (({ report := { root := "", issues := List.replicate 50 default } } : Browser).after
    [.resize 14, .key "G", .key "k"]).window = (40, 50) := by
  decide +kernel

end InlineAudit
