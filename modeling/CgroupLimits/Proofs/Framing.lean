import CgroupLimits.ControlTable
import CgroupLimits.Proofs.Lines

/-! Steps over a stream, and the lines that they come to.

    A run of steps, reads and skips in any order, cuts the front of a stream into pieces: none is
    empty before the end, and none goes past a newline (`Step.Frames`). What a read tells is about
    the line it starts in and nothing else (`Reads`): a line is told whole, and one that is too
    long is left inside, so that a skip ends where the next line starts. Therefore the loop that
    skips the rest of each such line comes to every line once (`visits_loop`), and the search for a
    key is this loop (`search_eq_first`). -/

namespace CgroupLimits

namespace Line

/-! ### The line that a stream starts in -/

/-- What is left of the line that a stream starts in, without its newline. -/
def current (bytes : List UInt8) : List UInt8 := bytes.takeWhile (· != newline)

/-- What stands behind that line: the next line on, or nothing. -/
def following (bytes : List UInt8) : List UInt8 := (bytes.dropWhile (· != newline)).tail

section Free

variable {front : List UInt8} (hfree : newline ∉ front) (back : List UInt8)

include hfree

theorem bne_newline : ∀ b ∈ front, (b != newline) = true := by
  intro b hb
  rw [bne_iff_ne]
  rintro rfl
  exact hfree hb

theorem current_append : current (front ++ back) = front ++ current back :=
  List.takeWhile_append_of_pos (bne_newline hfree)

theorem following_append : following (front ++ back) = following back := by
  rw [following, List.dropWhile_append_of_pos (bne_newline hfree)]
  rfl

end Free

theorem body_cut (bytes : List UInt8) : body (cut bytes).1 = current bytes := by
  rcases stream_cases bytes with hbytes | ⟨text, tail, htext, rfl⟩
  · have hcurrent := current_append hbytes []
    rw [List.append_nil] at hcurrent
    rw [cut_last hbytes, body_last hbytes, hcurrent]
    exact (List.append_nil bytes).symm
  · rw [cut_whole tail htext, body_whole, current_append htext]
    exact (List.append_nil text).symm

theorem skip_eq_following (bytes : List UInt8) : skip bytes = following bytes := by
  rcases stream_cases bytes with hbytes | ⟨text, tail, htext, rfl⟩
  · have hfollowing := following_append hbytes []
    rw [List.append_nil] at hfollowing
    rw [skip, cut_last hbytes, hfollowing]
    rfl
  · rw [skip, cut_whole tail htext, following_append htext]
    rfl

/-! ### One step -/

/-- A step over a stream: a read under a bound, or a skip. -/
inductive Step
  | read (most : Nat)
  | skip
  deriving DecidableEq, Repr

namespace Step

/-- What a step tells: a read its outcome, a skip nothing. -/
def told : Step → List UInt8 → Option Bounded
  | .read most, bytes => some (Line.read most bytes).1
  | .skip, _ => none

/-- The bytes that a step leaves. -/
def left : Step → List UInt8 → List UInt8
  | .read most, bytes => (Line.read most bytes).2
  | .skip, bytes => Line.skip bytes

/-- The bytes that a step consumes: as many from the front as are missing from what it leaves. -/
def consumed (step : Step) (bytes : List UInt8) : List UInt8 :=
  bytes.take (bytes.length - (step.left bytes).length)

/-- What a step does to a stream. -/
structure Frames (step : Step) (bytes : List UInt8) : Prop where
  /-- What it consumes and what it leaves are the stream. -/
  split : step.consumed bytes ++ step.left bytes = bytes
  /-- It consumes something unless the stream is at its end. -/
  moves : bytes ≠ [] → step.consumed bytes ≠ []
  /-- What it consumes has a newline at its end at most. -/
  newline_last {front back : List UInt8} :
    step.consumed bytes = front ++ newline :: back → back = []

end Step

/-- What stands in front of what a step leaves is what it consumes. -/
theorem consumed_of_append {step : Step} {front bytes : List UInt8}
    (h : front ++ step.left bytes = bytes) : step.consumed bytes = front := by
  have hlength := congrArg List.length h
  rw [List.length_append] at hlength
  rw [Step.consumed, ← Nat.eq_sub_of_add_eq hlength, ← h, List.take_left]

theorem consumed_read (most : Nat) (bytes : List UInt8) :
    (Step.read most).consumed bytes = taken most bytes :=
  consumed_of_append (taken_append_rest most bytes)

theorem consumed_skip (bytes : List UInt8) : Step.skip.consumed bytes = (cut bytes).1 :=
  consumed_of_append (cut_append bytes)

theorem cut_newline_last {bytes front back : List UInt8}
    (h : (cut bytes).1 = front ++ newline :: back) : back = [] := by
  rcases stream_cases bytes with hbytes | ⟨text, tail, htext, rfl⟩
  · rw [cut_last hbytes] at h
    dsimp only at h
    exact absurd (by simp [h]) hbytes
  · rw [cut_whole tail htext] at h
    rcases List.eq_nil_or_concat back with rfl | ⟨inner, b, rfl⟩
    · rfl
    · have hsplit : text ++ [newline] = (front ++ newline :: inner) ++ [b] := by simpa using h
      obtain ⟨rfl, -⟩ := List.append_inj' hsplit rfl
      exact absurd (by simp) htext

theorem taken_newline_last {most : Nat} {bytes front back : List UInt8}
    (h : taken most bytes = front ++ newline :: back) : back = [] := by
  obtain ⟨more, hmore⟩ : taken most bytes <+: (cut bytes).1 :=
    taken_eq_take most bytes ▸ List.take_prefix _ _
  have hcut : (cut bytes).1 = front ++ newline :: (back ++ more) := by
    rw [← hmore, h]
    simp
  exact (List.append_eq_nil_iff.1 (cut_newline_last hcut)).1

theorem cut_ne_nil {bytes : List UInt8} (h : bytes ≠ []) : (cut bytes).1 ≠ [] := by
  obtain ⟨b, bs, rfl⟩ := List.exists_cons_of_ne_nil h
  rw [cut]
  split <;> simp

theorem Step.frames (step : Step) (bytes : List UInt8) : step.Frames bytes := by
  cases step with
  | read most =>
    have hconsumed := consumed_read most bytes
    exact ⟨hconsumed ▸ taken_append_rest most bytes, hconsumed ▸ taken_ne_nil most,
      hconsumed ▸ taken_newline_last⟩
  | skip =>
    have hconsumed := consumed_skip bytes
    exact ⟨hconsumed ▸ cut_append bytes, hconsumed ▸ cut_ne_nil, hconsumed ▸ cut_newline_last⟩

/-! ### What a read tells -/

/-- What a read tells of the line that a stream starts in. -/
structure Reads (most : Nat) (bytes : List UInt8) : Prop where
  /-- It consumes at most one byte more than the bound, whatever it tells. -/
  consumed_le : ((Step.read most).consumed bytes).length ≤ min (most + 1) Numeral.max64
  /-- It tells the end exactly at the end. -/
  ended_iff : (read most bytes).1 = .ended ↔ bytes = []
  /-- It tells no line past the bound, and none with a newline. -/
  line_fits {text : String} : (read most bytes).1 = .line text →
    (Text.toBytes text).length ≤ most ∧ newline ∉ Text.toBytes text
  /-- It tells a line whole, and leaves what stands behind it. -/
  line_whole {text : String} : Measured most bytes → (read most bytes).1 = .line text →
    Text.toBytes text = current bytes ∧ (read most bytes).2 = following bytes
  /-- It tells that a line is too long only if it is, and stops inside that line. -/
  tooLong : (read most bytes).1 = .tooLong →
    most < (current bytes).length ∧ newline ∉ (Step.read most).consumed bytes ∧
      skip (read most bytes).2 = following bytes

/-- What bytes that were taken in one read are made out to be. -/
inductive Says (most : Nat) (bytes : List UInt8) : Bounded → Prop
  | ended (h : bytes = []) : Says most bytes .ended
  | line {text : String} (hne : bytes ≠ []) (htext : body bytes = Text.toBytes text)
    (hwhole : bytes.getLast? = some newline ∨ bytes.length ≤ most) : Says most bytes (.line text)
  | tooLong (hlast : bytes.getLast? ≠ some newline) (hlong : most < bytes.length) :
    Says most bytes .tooLong
  | notText (h : ¬ Text.Spells (body bytes)) : Says most bytes .notText

theorem says_outcome (most : Nat) (bytes : List UInt8) : Says most bytes (outcome most bytes) := by
  unfold outcome
  split
  · rename_i hnone
    exact .notText (Text.ofBytes?_eq_none_iff.1 hnone)
  · rename_i text htext
    rw [Text.ofBytes?_eq_some_iff] at htext
    by_cases hne : bytes = []
    · rw [if_pos hne]
      exact .ended hne
    · rw [if_neg hne]
      by_cases hlast : bytes.getLast? = some newline
      · rw [if_pos hlast]
        exact .line hne htext (Or.inl hlast)
      · rw [if_neg hlast]
        by_cases hlong : most < bytes.length
        · rw [if_pos hlong]
          exact .tooLong hlast hlong
        · rw [if_neg hlong]
          exact .line hne htext (Or.inr (Nat.not_lt.1 hlong))

theorem read_eq_ended_iff {most : Nat} {bytes : List UInt8} :
    (read most bytes).1 = .ended ↔ bytes = [] := by
  constructor
  · intro h
    have hsays : Says most (taken most bytes) .ended := h ▸ says_outcome most (taken most bytes)
    cases hsays with
    | ended hnil =>
      by_contra hne
      exact taken_ne_nil most hne hnil
  · rintro rfl
    exact outcome_nil most

theorem ne_nil_of_read {most : Nat} {bytes : List UInt8} {found : Bounded}
    (h : (read most bytes).1 = found) (hfound : found ≠ .ended) : bytes ≠ [] :=
  mt read_eq_ended_iff.2 (h ▸ hfound)

theorem cut_mem_all {bytes : List UInt8} (h : bytes ≠ []) : (cut bytes).1 ∈ all bytes := by
  rcases stream_cases bytes with hbytes | ⟨text, tail, htext, rfl⟩
  · rw [cut_last hbytes, all_last h hbytes]
    exact List.mem_singleton_self _
  · rw [cut_whole tail htext, all_whole tail htext]
    exact List.mem_cons_self

section Reads

variable (most : Nat) (bytes : List UInt8)

theorem taken_le : (taken most bytes).length ≤ min (most + 1) Numeral.max64 := by
  rw [taken_eq_take]
  exact List.length_take_le _ _

/-- What a read takes is a line with its newline, or it has none. -/
theorem taken_cases : newline ∉ taken most bytes ∨
    ∃ text, newline ∉ text ∧ taken most bytes = text ++ [newline] := by
  rcases stream_cases (taken most bytes) with hfree | ⟨text, tail, htext, htaken⟩
  · exact Or.inl hfree
  · obtain rfl := taken_newline_last htaken
    exact Or.inr ⟨text, htext, htaken⟩

theorem reads : Reads most bytes where
  consumed_le := consumed_read most bytes ▸ taken_le most bytes
  ended_iff := read_eq_ended_iff
  line_fits := by
    intro text h
    have hsays : Says most (taken most bytes) (.line text) := h ▸ says_outcome most _
    have hle := taken_le most bytes
    cases hsays with
    | line _ htext hwhole =>
      rw [← htext]
      rcases taken_cases most bytes with hfree | ⟨front, hfront, htaken⟩
      · rw [body_last hfree]
        exact ⟨hwhole.resolve_left fun hlast => hfree (List.mem_of_getLast? hlast), hfree⟩
      · rw [htaken] at hle ⊢
        rw [List.length_append, List.length_singleton] at hle
        rw [body_whole]
        exact ⟨by omega, hfront⟩
  line_whole := by
    intro text hmeasured h
    have hne := ne_nil_of_read h nofun
    obtain ⟨htells, hrest⟩ := tells_read hne rfl (hmeasured.of_mem (cut_mem_all hne))
    rw [h] at htells
    cases htells with
    | line _ htext =>
      exact ⟨htext ▸ body_cut bytes, (hrest text h).trans (skip_eq_following bytes)⟩
  tooLong := by
    intro h
    have hsays : Says most (taken most bytes) .tooLong := h ▸ says_outcome most _
    cases hsays with
    | tooLong hlast hlong =>
      have hfree : newline ∉ taken most bytes := by
        rcases taken_cases most bytes with hfree | ⟨front, -, htaken⟩
        · exact hfree
        · exact absurd (by simp [htaken]) hlast
      have hsplit := taken_append_rest most bytes
      refine ⟨?_, consumed_read most bytes ▸ hfree, ?_⟩
      · rw [← hsplit, current_append hfree, List.length_append]
        omega
      · rw [skip_eq_following]
        calc following (rest most bytes)
            = following (taken most bytes ++ rest most bytes) := (following_append hfree _).symm
          _ = following bytes := congrArg following hsplit

end Reads

/-! ### Runs of steps -/

/-- The streams that the steps of a run come to, each with its step. -/
def course : List Step → List UInt8 → List (Step × List UInt8)
  | [], _ => []
  | step :: steps, bytes => (step, bytes) :: course steps (step.left bytes)

/-- The pieces that the steps of a run consume. -/
def pieces (steps : List Step) (bytes : List UInt8) : List (List UInt8) :=
  (course steps bytes).map fun (step, unread) => step.consumed unread

/-- What the steps of a run tell. -/
def answers (steps : List Step) (bytes : List UInt8) : List Bounded :=
  (course steps bytes).filterMap fun (step, unread) => step.told unread

/-- What a run leaves. -/
def after (steps : List Step) (bytes : List UInt8) : List UInt8 :=
  steps.foldl (fun unread step => step.left unread) bytes

/-- The pieces of a run are consecutive, and with what it leaves they are the stream. -/
theorem flatten_pieces (steps : List Step) (bytes : List UInt8) :
    (pieces steps bytes).flatten ++ after steps bytes = bytes := by
  induction steps generalizing bytes with
  | nil => rfl
  | cons step steps ih =>
    calc (pieces (step :: steps) bytes).flatten ++ after (step :: steps) bytes
        = step.consumed bytes ++
            ((pieces steps (step.left bytes)).flatten ++ after steps (step.left bytes)) :=
          List.append_assoc _ _ _
      _ = step.consumed bytes ++ step.left bytes := by rw [ih]
      _ = bytes := (step.frames bytes).split

/-! ### The loop over all lines -/

/-- The steps that read a stream line by line: behind a line that is too long its rest is skipped,
    and a read that tells neither is the last. -/
def loop (most : Nat) (bytes : List UInt8) : List Step :=
  match h : (read most bytes).1 with
  | .line _ =>
    have : (read most bytes).2.length < bytes.length := rest_lt most (ne_nil_of_read h nofun)
    .read most :: loop most (read most bytes).2
  | .tooLong =>
    have : (skip (read most bytes).2).length < bytes.length :=
      Nat.lt_of_le_of_lt (skip_le _) (rest_lt most (ne_nil_of_read h nofun))
    .read most :: .skip :: loop most (skip (read most bytes).2)
  | .ended | .notText => [.read most]
termination_by bytes.length

/-- The lines of a stream, the steps that go to each and what these tell: one read for a line and
    one for the end, and a skip for a line that is too long. A line that cannot be read is the last
    that is come to. -/
inductive Visits (most : Nat) : List (List UInt8) → List Step → List Bounded → Prop
  | ended : Visits most [] [.read most] [.ended]
  | notText {line : List UInt8} {lines : List (List UInt8)} (h : Tells most line .notText) :
    Visits most (line :: lines) [.read most] [.notText]
  | line {line : List UInt8} {lines : List (List UInt8)} {steps : List Step} {found : List Bounded}
    {text : String} (h : Tells most line (.line text)) (hrest : Visits most lines steps found) :
    Visits most (line :: lines) (.read most :: steps) (.line text :: found)
  | tooLong {line : List UInt8} {lines : List (List UInt8)} {steps : List Step}
    {found : List Bounded} (h : Tells most line .tooLong) (hrest : Visits most lines steps found) :
    Visits most (line :: lines) (.read most :: .skip :: steps) (.tooLong :: found)

theorem Visits.length_le {most : Nat} {lines : List (List UInt8)} {steps : List Step}
    {found : List Bounded} (h : Visits most lines steps found) :
    found.length ≤ lines.length + 1 ∧ steps.length ≤ 2 * lines.length + 1 := by
  induction h with
  | ended => exact ⟨Nat.le_refl _, Nat.le_refl _⟩
  | notText _ => exact ⟨Nat.le_add_left _ _, Nat.le_add_left _ _⟩
  | line _ _ ih =>
    simp only [List.length_cons]
    omega
  | tooLong _ _ ih =>
    simp only [List.length_cons]
    omega

/-- Where all lines can be read, each of them is told once, and then the end. -/
theorem Visits.forall₂ {most : Nat} {lines : List (List UInt8)} {steps : List Step}
    {found : List Bounded} (h : Visits most lines steps found)
    (hread : ∀ line ∈ lines, Text.Spells (line.take (reach most))) :
    ∃ told, List.Forall₂ (Tells most) lines told ∧ found = told ++ [.ended] := by
  induction h with
  | ended => exact ⟨[], .nil, rfl⟩
  | notText h =>
    cases h with
    | notText hnot => exact absurd (hread _ List.mem_cons_self) hnot
  | line h _ ih =>
    obtain ⟨told, htold, rfl⟩ := ih (List.forall_mem_cons.1 hread).2
    exact ⟨_ :: told, .cons h htold, rfl⟩
  | tooLong h _ ih =>
    obtain ⟨told, htold, rfl⟩ := ih (List.forall_mem_cons.1 hread).2
    exact ⟨_ :: told, .cons h htold, rfl⟩

theorem answers_read (most : Nat) (steps : List Step) (bytes : List UInt8) :
    answers (.read most :: steps) bytes =
      (read most bytes).1 :: answers steps (read most bytes).2 :=
  rfl

theorem answers_skip (steps : List Step) (bytes : List UInt8) :
    answers (.skip :: steps) bytes = answers steps (skip bytes) :=
  rfl

section Loop

variable {most : Nat} {bytes : List UInt8}

theorem loop_of_line {text : String} (h : (read most bytes).1 = .line text) :
    loop most bytes = .read most :: loop most (read most bytes).2 := by
  rw [loop]
  split
  case h_1 => rfl
  all_goals
    rename_i hother
    rw [h] at hother
    cases hother

theorem loop_of_tooLong (h : (read most bytes).1 = .tooLong) :
    loop most bytes = .read most :: .skip :: loop most (skip (read most bytes).2) := by
  rw [loop]
  split
  case h_2 => rfl
  all_goals
    rename_i hother
    rw [h] at hother
    cases hother

theorem loop_of_last (h : (read most bytes).1 = .ended ∨ (read most bytes).1 = .notText) :
    loop most bytes = [.read most] := by
  rw [loop]
  split
  case h_3 => rfl
  case h_4 => rfl
  all_goals
    rename_i hother
    rw [hother] at h
    rcases h with h | h <;> cases h

/-- The loop comes to the line that a stream starts in, and then to those behind it. -/
theorem visits_cut {line tail : List UInt8} {lines : List (List UInt8)} (hne : bytes ≠ [])
    (hcut : cut bytes = (line, tail))
    (hmeasured : most < Numeral.max64 ∨ line.length ≤ Numeral.max64)
    (htail : Visits most lines (loop most tail) (answers (loop most tail) tail)) :
    Visits most (line :: lines) (loop most bytes) (answers (loop most bytes) bytes) := by
  obtain ⟨htells, hrest⟩ := tells_read hne hcut hmeasured
  cases hread : (read most bytes).1 with
  | line text =>
    rw [loop_of_line hread, answers_read, hread, hrest text hread]
    exact .line (hread ▸ htells) htail
  | tooLong =>
    have hskip : skip (read most bytes).2 = tail := by
      rw [((reads most bytes).tooLong hread).2.2, ← skip_eq_following, skip, hcut]
    rw [loop_of_tooLong hread, answers_read, answers_skip, hread, hskip]
    exact .tooLong (hread ▸ htells) htail
  | ended => exact absurd (read_eq_ended_iff.1 hread) hne
  | notText =>
    rw [loop_of_last (Or.inr hread), answers_read, hread]
    exact .notText (hread ▸ htells)

theorem visits_nil (most : Nat) : Visits most [] (loop most []) (answers (loop most []) []) := by
  have hended : (read most []).1 = .ended := outcome_nil most
  rw [loop_of_last (Or.inl hended), answers_read, hended]
  exact .ended

/-- The loop comes to every line once, in their order. -/
theorem visits_loop (hmeasured : Measured most bytes) :
    Visits most (all bytes) (loop most bytes) (answers (loop most bytes) bytes) := by
  induction bytes using lines_induction with
  | last line hfree =>
    by_cases hne : line = []
    · rw [hne]
      exact visits_nil most
    · rw [Measured, all_last hne hfree, List.forall_mem_singleton] at hmeasured
      rw [all_last hne hfree]
      exact visits_cut hne (cut_last hfree) hmeasured (visits_nil most)
  | whole text tail htext ih =>
    rw [Measured, all_whole tail htext, List.forall_mem_cons] at hmeasured
    rw [all_whole tail htext]
    exact visits_cut (by simp) (cut_whole tail htext) (hmeasured.imp_right And.left)
      (ih (hmeasured.imp_right And.right))

end Loop

end Line

/-! ### The search for a key -/

namespace ControlTable

/-- What a read tells a search, if it ends it. -/
def answer (path key : String) : Line.Bounded → Option (Except ControlError Nat)
  | .line text => (wordFor? key text).map (ControlLine.number path)
  | .tooLong => none
  | .ended => some (.error (.keyMissing path key))
  | .notText => some (.error (.unreadable path .notText))

section Search

variable (path key : String) {most : Nat} {bytes : List UInt8}

/-- A search goes on behind a line without a word for the key. -/
theorem value_search_of_line {text : String} (h : (Line.read most bytes).1 = .line text) :
    some (search path key most bytes).value =
      (answer path key (.line text)).or
        (some (search path key most (Line.read most bytes).2).value) := by
  rw [search, dif_neg (Line.ne_nil_of_read h nofun)]
  dsimp only
  rw [show Line.outcome most (Line.taken most bytes) = .line text from h, answer]
  dsimp only
  cases wordFor? key text <;> rfl

/-- A search goes on behind a line that is too long. -/
theorem value_search_of_tooLong (h : (Line.read most bytes).1 = .tooLong) :
    (search path key most bytes).value =
      (search path key most (Line.skip (Line.read most bytes).2)).value := by
  rw [search, dif_neg (Line.ne_nil_of_read h nofun)]
  dsimp only
  rw [show Line.outcome most (Line.taken most bytes) = .tooLong from h]
  rfl

theorem value_search_of_last
    (h : (Line.read most bytes).1 = .ended ∨ (Line.read most bytes).1 = .notText) :
    some (search path key most bytes).value = answer path key (Line.read most bytes).1 := by
  rcases h with h | h
  · obtain rfl := Line.read_eq_ended_iff.1 h
    rw [h, search, dif_pos rfl]
    rfl
  · rw [search, dif_neg (Line.ne_nil_of_read h nofun), h]
    dsimp only
    rw [show Line.outcome most (Line.taken most bytes) = .notText from h]
    rfl

/-- A search is the loop over all lines, as far as to the first that ends it. -/
theorem search_eq_first (most : Nat) (bytes : List UInt8) :
    (Line.answers (Line.loop most bytes) bytes).findSome? (answer path key) =
      some (search path key most bytes).value := by
  induction bytes using Line.loop.induct most with
  | case1 bytes text h _ ih =>
    rw [Line.loop_of_line h, Line.answers_read, h, List.findSome?_cons, ih,
      value_search_of_line path key h]
    cases answer path key (.line text) <;> rfl
  | case2 bytes h _ ih =>
    rw [Line.loop_of_tooLong h, Line.answers_read, Line.answers_skip, h,
      List.findSome?_cons_of_isNone rfl, ih, value_search_of_tooLong path key h]
  | case3 bytes h =>
    rw [Line.loop_of_last (Or.inl h), value_search_of_last path key (Or.inl h)]
    exact List.findSome?_singleton
  | case4 bytes h =>
    rw [Line.loop_of_last (Or.inr h), value_search_of_last path key (Or.inr h)]
    exact List.findSome?_singleton

end Search

end ControlTable

/-! ### Runs frame the lines -/

namespace Line

theorem measured_of_length {bytes : List UInt8} (h : bytes.length ≤ Numeral.max64) (most : Nat) :
    Measured most bytes := by
  refine Or.inr fun line hline => Nat.le_trans (List.Sublist.length_le ?_) h
  exact flatten_all bytes ▸ List.sublist_flatten_of_mem hline

/-- Steps over a stream, with any bounds and in any order, frame it by its lines. The pieces that
    they consume are consecutive and leave the rest of the stream; wherever a run has come to, a
    step moves on and stops behind the next newline at the latest, and a read tells of the line that
    it starts in. The loop that skips what is too long comes to the lines in order and once each, to
    all of them unless one cannot be read, and makes one read more than there are lines at most. A
    search for a key is this loop, as far as to the first line that ends it. -/
theorem steps_frame_lines :
    (∀ (steps : List Step) (bytes : List UInt8),
      (pieces steps bytes).flatten ++ after steps bytes = bytes) ∧
    (∀ (step : Step) (bytes : List UInt8), step.Frames bytes) ∧
    (∀ (most : Nat) (bytes : List UInt8), Reads most bytes) ∧
    (∀ bytes : List UInt8, bytes.length ≤ Numeral.max64 → ∀ most, Measured most bytes) ∧
    (∀ (most : Nat) (bytes : List UInt8), Measured most bytes →
      Visits most (all bytes) (loop most bytes) (answers (loop most bytes) bytes) ∧
      ((∀ line ∈ all bytes, Text.Spells (line.take (reach most))) → ∃ told,
        List.Forall₂ (Tells most) (all bytes) told ∧
          answers (loop most bytes) bytes = told ++ [.ended]) ∧
      (answers (loop most bytes) bytes).length ≤ (all bytes).length + 1 ∧
      (loop most bytes).length ≤ 2 * (all bytes).length + 1) ∧
    (∀ (path key : String) (most : Nat) (bytes : List UInt8),
      (answers (loop most bytes) bytes).findSome? (ControlTable.answer path key) =
        some (ControlTable.search path key most bytes).value) :=
  ⟨flatten_pieces, Step.frames, reads, fun _ => measured_of_length,
    fun _ _ hmeasured => ⟨visits_loop hmeasured, (visits_loop hmeasured).forall₂,
      (visits_loop hmeasured).length_le⟩,
    ControlTable.search_eq_first⟩

/-- A line past the bound, and then one of just as many bytes. -/
theorem steps_frame_lines_overlong :
    let bytes := Text.toBytes "0123456789\nmax\n"
    Measured 3 bytes ∧ Measured Numeral.max64 bytes ∧
    (∀ line ∈ all bytes, Text.Spells (line.take (reach 3))) ∧
    (read 3 bytes).1 = .tooLong ∧ 3 < (current bytes).length ∧
    skip (read 3 bytes).2 = Text.toBytes "max\n" ∧
    (read Numeral.max64 bytes).1 = .line "0123456789" ∧
    Text.toBytes "0123456789" = current bytes ∧
    (∃ told, List.Forall₂ (Tells 3) (all bytes) told ∧
      answers (loop 3 bytes) bytes = told ++ [.ended]) ∧
    loop 3 bytes = [.read 3, .skip, .read 3, .read 3] ∧
    answers (loop 3 bytes) bytes = [.tooLong, .line "max", .ended] := by
  intro bytes
  obtain ⟨-, -, hreads, hcounted, hloop, -⟩ := steps_frame_lines
  have hmeasured : ∀ most, Measured most bytes := hcounted bytes (by decide)
  have hlines : all bytes = [Text.toBytes "0123456789\n", Text.toBytes "max\n"] := by decide
  have hread : ∀ line ∈ all bytes, Text.Spells (line.take (reach 3)) := by
    rw [hlines, List.forall_mem_cons, List.forall_mem_singleton]
    exact ⟨⟨"0123", by decide⟩, ⟨"max\n", by decide⟩⟩
  have hlong : (read 3 bytes).1 = .tooLong := by decide
  have hline : (read Numeral.max64 bytes).1 = .line "0123456789" := by decide
  obtain ⟨hlt, -, hskip⟩ := (hreads 3 bytes).tooLong hlong
  have hsteps : loop 3 bytes = [.read 3, .skip, .read 3, .read 3] := by decide +kernel
  refine ⟨hmeasured 3, hmeasured Numeral.max64, hread, hlong, hlt, hskip.trans (by decide), hline,
    ((hreads Numeral.max64 bytes).line_whole (hmeasured _) hline).1,
    (hloop 3 bytes (hmeasured 3)).2.1 hread, hsteps, ?_⟩
  rw [hsteps]
  decide

end Line

end CgroupLimits
