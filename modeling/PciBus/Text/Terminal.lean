import PciBus.Text.Blank

/-!
# Text for a terminal

Control characters in a text can move the cursor or repaint the screen, so a
text that comes from outside is shown without them and without the sequences
that they begin: an escape character with its letter, a control sequence with
its parameters, a device control string, a command that a bell ends. Of the
control characters only tabs and the ends of lines and pages are kept.
-/

namespace PciBus.Text

/-! ## Single characters -/

/-- The control characters that are kept. -/
def isLayout (c : Char) : Bool :=
  c == '\t' || c == '\n' || c == '\x0c' || c == '\r'

/-- Whether a character that stands outside all sequences is shown. -/
def isShown (c : Char) : Bool :=
  (0x20 ≤ c.toNat && c.toNat ≠ 0x7f) || isLayout c

/-- Whether the code of a character lies in a range, ends included. -/
def isWithin (c : Char) (low high : Nat) : Bool :=
  low ≤ c.toNat && c.toNat ≤ high

/-- Whether the UTF-8 form of a character holds the byte 0x9c, which ends a
string. -/
def holdsStringEnd (c : Char) : Bool :=
  c.toNat ≥ 0x80 && (String.singleton c).toUTF8.data.contains 0x9c

/-! ## Sequences -/

/-- What a terminal is in the middle of. -/
inductive Phase where
  | plain
  /-- An escape character has come. -/
  | escape
  /-- An escape character and a mark that gives its letter another meaning. -/
  | marked
  /-- The parameters of a control sequence. -/
  | parameters
  /-- A device control string, with nothing behind its opening. -/
  | device
  | deviceParameters
  | deviceMarked
  /-- A string without an effect. -/
  | string
  /-- A command to the terminal itself. -/
  | command
  deriving DecidableEq, Repr

namespace Phase

/-- The phase after the character that follows an escape character. -/
def afterEscape (c : Char) : Phase :=
  if c = 'P' then .device
  else if c = 'X' ∨ c = '^' ∨ c = '_' then .string
  else if c = '[' then .parameters
  else if c = ']' then .command
  else if isWithin c 0x20 0x2f then .marked
  else if isWithin c 0x30 0x7e then .plain
  else .escape

/-- The phase after a character in a device control string, before the
string's own text. -/
def afterDevice (phase : Phase) (c : Char) : Phase :=
  if isWithin c 0x20 0x2f then .deviceMarked
  else if isWithin c 0x40 0x7e then .string
  else if isWithin c 0x30 0x3f then
    match phase with
    | .device => .deviceParameters
    | .deviceParameters => if isWithin c 0x3c 0x3f then .string else .deviceParameters
    | _ => .string
  else phase

/-- The phase after a character. Cancelling and a new escape character work
everywhere. -/
def next (phase : Phase) (c : Char) : Phase :=
  if c = '\x18' ∨ c = '\x1a' then .plain
  else if c = '\x1b' then .escape
  else
    match phase with
    | .plain => .plain
    | .escape => afterEscape c
    | .marked => if isWithin c 0x30 0x7e then .plain else .marked
    | .parameters => if isWithin c 0x40 0x7e then .plain else .parameters
    | .string => if holdsStringEnd c then .plain else .string
    | .command => if c = '\x07' then .plain else .command
    | phase => phase.afterDevice c

/-- Whether a character that comes in a phase is shown: outside all sequences
as it is, in the short ones only for the layout. -/
def shows (phase : Phase) (c : Char) : Bool :=
  match phase with
  | .plain => isShown c
  | .escape | .marked | .parameters => isLayout c
  | _ => false

end Phase

/-! ## Whole texts -/

/-- The characters that are shown. Once one was shown, those behind it are
too, up to the next one that would not be shown by itself; a sequence that
was interrupted like this goes on after that, unless there was a character
beyond ASCII. -/
def shownFrom (phase : Phase) (running : Bool) : List Char → List Char
  | [] => []
  | c :: cs =>
      if running && isShown c then
        c :: shownFrom (if c.toNat < 0x80 then phase else .plain) true cs
      else if phase.shows c then c :: shownFrom (phase.next c) true cs
      else shownFrom (phase.next c) false cs

/-- A text without control sequences. -/
def shown (s : String) : String :=
  String.ofList (shownFrom .plain false s.toList)

theorem shownFrom_plain {cs : List Char} (h : ∀ c ∈ cs, isShown c = true) (running : Bool) :
    shownFrom .plain running cs = cs := by
  induction cs generalizing running with
  | nil => rfl
  | cons c cs ih =>
      have hc : isShown c = true := h c (by simp)
      have hcs : ∀ d ∈ cs, isShown d = true := fun d hd => h d (by simp [hd])
      have hnext : Phase.next .plain c = .plain := by
        unfold Phase.next
        split
        · rfl
        · split
          · next hesc => subst hesc; exact absurd hc (by decide)
          · rfl
      simp only [shownFrom, hc, Phase.shows, hnext, ite_self, Bool.and_true, ih hcs]
      cases running <;> rfl

/-- A text of shown characters is left as it is. -/
theorem shown_eq_self {s : String} (h : ∀ c ∈ s.toList, isShown c = true) : shown s = s := by
  rw [shown, shownFrom_plain h, String.ofList_toList]

/-- Nothing is added, and the order stays. -/
theorem shownFrom_sublist (phase : Phase) (running : Bool) (cs : List Char) :
    (shownFrom phase running cs).Sublist cs := by
  induction cs generalizing phase running with
  | nil => exact .slnil
  | cons c cs ih =>
      simp only [shownFrom]
      split
      · exact (ih _ _).cons_cons c
      · split
        · exact (ih _ _).cons_cons c
        · exact (ih _ _).cons c

end PciBus.Text
