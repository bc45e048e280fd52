import KernelLog.Proofs.NamedChannels
import KernelLog.Proofs.PropertyKeys

/-!
# What stands behind a NUL in a tag

A record shows of a tag what stands before the first NUL, and where it goes depends on no
more. The threshold of a tag is another matter: the key of its property takes in the
characters of the tag as they come, and a NUL is one of them. So a tag with something
behind a NUL makes the same records as without, but has a property of its own, unless
there is no room left in the key for the NUL.
-/

namespace KernelLog

open Bytes Routing Threshold

/-- Of a tag, the record of a text depends on what stands before the first NUL alone. -/
theorem Frame.ofText_of_visible (requested : Option Channel) (priority : Priority)
    (first second message : Bytes) (same : cutAtNul first = cutAtNul second) :
    Frame.ofText requested priority first message =
      Frame.ofText requested priority second message := by
  simp only [Frame.ofText, same]

/-- What is behind a NUL is no visible part of a text. -/
theorem Bytes.cut_ofText_nul (text hidden : String) :
    cutAtNul (ofText (text ++ "\x00" ++ hidden)) = cutAtNul (ofText text) := by
  have nul : ofText "\x00" = [0] := by decide
  rw [ofText_append, ofText_append, nul, List.append_assoc, List.singleton_append, cut_behind_nul]

/-- What is behind a NUL is no part of a tag's key exactly if the tag alone fills the key. -/
theorem Threshold.key_nul_iff (tag hidden : String) :
    key (tag ++ "\x00" ++ hidden) = key tag ↔ 23 ≤ (ofText tag).length := by
  have chars : (tag ++ "\x00" ++ hidden).toList = tag.toList ++ '\x00' :: hidden.toList := by
    rw [String.toList_append, String.toList_append, List.append_assoc]
    rfl
  rw [key_eq_iff, chars, fitting_append_eq_iff 23 tag.toList hidden.toList '\x00' (by decide),
    length_ofText]

/-- What stands behind a NUL in a tag has no part in the tag's records, but in its threshold.

Whatever is submitted, on whatever channel or on none, and on whatever logger, the tag with more
behind a NUL leads to the same record, the same answer and the same world as the tag alone. All
loggers judge the two alike exactly if the tag alone has 23 bytes or more. For a shorter one, there
is a logger that finds a record worth writing under the one tag, and not under the other. -/
theorem thresholds_see_behind_a_nul (tag hidden : String) :
    let extended := tag ++ "\x00" ++ hidden
    (∀ requested priority wording,
      let call := fun name => Call.submitting requested priority name wording
      (call extended).frame = (call tag).frame ∧
      ∀ on (world : World), world.step (.operate on (.send (call extended))) =
        world.step (.operate on (.send (call tag)))) ∧
    ((∀ (logger : Logger) priority, logger.config.isLoggable priority (some extended) =
        logger.config.isLoggable priority (some tag)) ↔
      23 ≤ (ofText tag).length) := by
  intro extended
  refine ⟨fun requested priority wording => ?_, ?_⟩
  · intro call
    have sameFrame : (call extended).frame = (call tag).frame := by
      rw [Call.frame_submitting, Call.frame_submitting]
      exact Frame.ofText_of_visible requested priority _ _ _ (cut_ofText_nul tag hidden)
    refine ⟨sameFrame, fun on world => ?_⟩
    rw [World.step_send, World.step_send, sameFrame]
  · -- A logger judges by its configuration, and every configuration is that of a logger.
    rw [← key_nul_iff tag hidden, ← judged_alike_iff]
    constructor
    · intro alike config
      exact alike (Logger.new config)
    · intro alike logger
      exact alike logger.config

/-- A tag is silenced, and its records are heard when something is hidden behind a NUL in it,
although they are the same. -/
theorem silenced_tag_is_heard_behind_a_nul :
    let logger := Logger.new { properties := [("log.tag.x", "S")] }
    let write := fun tag => Call.write .error tag "m"
    (write "x\x00y").frame = (write "x").frame ∧
    logger.config.isLoggable .error (some "x") = false ∧
    logger.config.isLoggable .error (some "x\x00y") = true ∧
    ¬ ∀ (logger : Logger) priority (tag hidden : String), '\x00' ∉ tag.toList →
      logger.config.isLoggable priority (some (tag ++ "\x00" ++ hidden)) =
        logger.config.isLoggable priority (some tag) := by
  intro logger write
  have silenced : logger.config.isLoggable .error (some "x") = false := by decide
  have heard : logger.config.isLoggable .error (some "x\x00y") = true := by decide
  refine ⟨by decide, silenced, heard, fun alike => ?_⟩
  have contrary := alike logger .error "x" "y" (by decide)
  rw [silenced] at contrary
  exact absurd (contrary.symm.trans heard) (by decide)

end KernelLog
