import KernelLog.Proofs.ChannelContents
import KernelLog.Proofs.PrintedTexts

/-!
# Naming a channel

A caller who names no channel writes to main, and so does one who names main. The two
differ in the rules that judge the tag: three tags count as telephony for the first
alone, and all others lead to the same record for both.

Among callers who do name a channel it does not matter which one it is, radio apart:
their telephony tags are the same, and so are the records on radio.
-/

namespace KernelLog

open Bytes Routing

/-- What a caller has to say: a text to write, or a message to print. -/
inductive Wording
  | written (text : String)
  | printed (pieces : List Piece)
  deriving DecidableEq

/-- The bytes of a wording that can get into a record. Of a message these are 1023 at most. -/
def Wording.bytes : Wording → Bytes
  | written text => ofText text
  | printed pieces => (Line.written pieces).take 1023

/-- The call that submits a wording, on the channel that was requested, if any. -/
def Call.submitting (requested : Option Channel) (priority : Priority) (tag : String) :
    Wording → Call
  | .written text => Call.writing requested priority tag text
  | .printed pieces => Call.printing requested priority tag pieces

/-- A wording is submitted as the record that is expected of its bytes. -/
theorem Call.frame_submitting (requested : Option Channel) (priority : Priority) (tag : String)
    (wording : Wording) :
    (Call.submitting requested priority tag wording).frame =
      Frame.ofText requested priority (ofText tag) wording.bytes := by
  cases wording with
  | written text => exact Call.frame_writing requested priority tag text
  | printed pieces => exact Call.frame_printing requested priority tag pieces

section Records

variable (requested : Option Channel) (priority : Priority) (tag message : Bytes)

/-- A telephony tag that is not for radio anyway is shown on radio, rewritten. -/
theorem Frame.ofText_rewritten (elsewhere : requested.getD .main ≠ .radio)
    (matched : isRadioTag (RuleSet.ofRequest requested) tag = true) :
    Frame.ofText requested priority tag message =
      Frame.showing .radio priority ((rewrittenBeginning ++ cutAtNul tag).take 31)
        (cutAtNul message) := by
  rw [← radio_tag_cut] at matched
  cases requested with
  | none => exact if_pos ⟨elsewhere, matched⟩
  | some channel => exact if_pos ⟨elsewhere, matched⟩

/-- A tag that is ordinary under the rules for its caller is shown where the record is for. -/
theorem Frame.ofText_ordinary (ordinary : isRadioTag (RuleSet.ofRequest requested) tag = false) :
    Frame.ofText requested priority tag message =
      Frame.showing (requested.getD .main) priority (cutAtNul tag) (cutAtNul message) := by
  rw [← radio_tag_cut, ← Bool.not_eq_true] at ordinary
  cases requested with
  | none => exact if_neg fun moved => ordinary moved.2
  | some channel => exact if_neg fun moved => ordinary moved.2

end Records

/-- The tags that count only without a named channel are ordinary with one. -/
theorem ordinary_of_default_only (tag : Bytes) (only : cutAtNul tag ∈ defaultOnlyTags) :
    isRadioTag .explicitChannel tag = false := by
  have each : ∀ visible ∈ defaultOnlyTags, isRadioTag .explicitChannel visible = false := by decide
  rw [← radio_tag_cut]
  exact each _ only

/-- Of these tags nothing is cut off when they are rewritten. -/
theorem rewritten_default_only (visible : Bytes) (only : visible ∈ defaultOnlyTags) :
    (rewrittenBeginning ++ visible).take 31 = rewrittenBeginning ++ visible := by
  have each : ∀ visible ∈ defaultOnlyTags, (rewrittenBeginning ++ visible).length ≤ 31 := by decide
  exact List.take_of_length_le (each visible only)

/-- But for these tags, the record of a text is the same whether main was named or no channel. -/
theorem Frame.ofText_main (priority : Priority) (tag message : Bytes)
    (other : cutAtNul tag ∉ defaultOnlyTags) :
    Frame.ofText none priority tag message = Frame.ofText (some .main) priority tag message := by
  cases matched : isRadioTag .explicitChannel tag with
  | true =>
    have also : isRadioTag .defaultChannel tag = true :=
      (radio_tag_default_iff tag).mpr (.inl matched)
    rw [ofText_rewritten none priority tag message (by decide) also,
      ofText_rewritten (some .main) priority tag message (by decide) matched]
  | false =>
    have neither : isRadioTag .defaultChannel tag = false := by
      rw [← Bool.not_eq_true, radio_tag_default_iff, matched]
      rintro (named | only)
      · cases named
      · exact other only
    rw [ofText_ordinary none priority tag message neither,
      ofText_ordinary (some .main) priority tag message matched]
    rfl

/-- It matters for three tags whether main is named or no channel is, and it does not matter which
channel is named otherwise.

The tag counts up to its first NUL, the wording is written or printed, and a call is nothing but its
record, whatever logger it is made on and whatever the state of the world. Unless the tag is one of
the three, a call that names no channel and one that names main have the same record, so they have
the same answer and lead to the same world. For each of the three the first goes to radio under the
rewritten tag, and the second to main under the tag as it is. If the rules for a named channel match
a tag, the record is the same for all channels but radio; if not, it is on the named one. -/
theorem naming_main_matters_for_three_tags (priority : Priority) (tag : String)
    (wording : Wording) :
    let call := fun requested => Call.submitting requested priority tag wording
    let step := fun requested on (world : World) =>
      world.step (.operate on (.send (call requested)))
    let visible := cutAtNul (ofText tag)
    let shown := cutAtNul wording.bytes
    let three := [ofText "QC-NETMGR-LIB", ofText "QC-QDP", ofText "Diag_Lib"]
    (∀ requested on world, step requested on world = world.sending on (call requested).frame) ∧
    (visible ∉ three → (call none).frame = (call (some .main)).frame ∧
      ∀ on world, step none on world = step (some .main) on world) ∧
    (visible ∈ three →
      (call none).frame =
        Frame.showing .radio priority (ofText "use-Rlog/RLOG-" ++ visible) shown ∧
      (call (some .main)).frame = Frame.showing .main priority visible shown) ∧
    (isRadioTag .explicitChannel (ofText tag) = true → ∀ channel, channel ≠ .radio →
      (call (some channel)).frame =
        Frame.showing .radio priority ((ofText "use-Rlog/RLOG-" ++ visible).take 31) shown) ∧
    (isRadioTag .explicitChannel (ofText tag) = false → ∀ channel,
      (call (some channel)).frame = Frame.showing channel priority visible shown) := by
  intro call step visible shown three
  have frame : ∀ requested, (call requested).frame =
      Frame.ofText requested priority (ofText tag) wording.bytes :=
    fun requested => Call.frame_submitting requested priority tag wording
  have sends : ∀ requested on world,
      step requested on world = world.sending on (call requested).frame :=
    fun requested on world => world.step_send on (call requested)
  refine ⟨sends, fun other => ?_, fun only => ?_, fun matched channel elsewhere => ?_,
    fun ordinary channel => ?_⟩
  · have same : (call none).frame = (call (some .main)).frame := by
      rw [frame, frame, Frame.ofText_main priority (ofText tag) wording.bytes other]
    refine ⟨same, fun on world => ?_⟩
    rw [sends, sends, same]
  · have matched : isRadioTag .defaultChannel (ofText tag) = true :=
      (radio_tag_default_iff (ofText tag)).mpr (.inr only)
    have ordinary := ordinary_of_default_only (ofText tag) only
    refine ⟨?_, ?_⟩
    · rw [frame, Frame.ofText_rewritten none priority _ _ (by decide) matched,
        rewritten_default_only visible only]
      rfl
    · rw [frame, Frame.ofText_ordinary (some .main) priority _ _ ordinary]
      rfl
  · rw [frame, Frame.ofText_rewritten (some channel) priority _ _ elsewhere matched]
    rfl
  · rw [frame, Frame.ofText_ordinary (some channel) priority _ _ ordinary]
    rfl

/-- One of the three tags, with more behind a NUL, and a message that fails to be formatted
half-way: it is moved to radio for a caller who names no channel, and stays on main and on events
for callers who name these. -/
theorem default_only_tag_stays_where_it_is_named :
    let call := fun requested =>
      Call.submitting requested .info "QC-QDP\x00x" (.printed [.text "m", .failure, .text "n"])
    let world := ((World.start FileSystem.initial ⟨none, none⟩ .bare .bare).create Config.default
      .memory).2
    let kept := fun requested =>
      (world.step (.operate (.numbered 0) (.send (call requested)))).world.host.memories 0
    kept none = [(.radio, [4] ++ ofText "use-Rlog/RLOG-QC-QDP\x00m\x00")] ∧
    kept (some .main) = [(.main, [4] ++ ofText "QC-QDP\x00m\x00")] ∧
    kept (some .events) = [(.events, [4] ++ ofText "QC-QDP\x00m\x00")] := by
  intro call world kept
  obtain ⟨sends, _, only, _, ordinary⟩ := naming_main_matters_for_three_tags .info "QC-QDP\x00x"
    (.printed [.text "m", .failure, .text "n"])
  obtain ⟨onRadio, onMain⟩ := only (by decide)
  refine ⟨?_, ?_, ?_⟩
  · simp only [kept, call, sends, onRadio]
    decide
  · simp only [kept, call, sends, onMain]
    decide
  · simp only [kept, call, sends, ordinary (by decide) .events]
    decide

end KernelLog
