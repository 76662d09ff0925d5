import NodeProbe.Proofs.Json.Pretty
import NodeProbe.Proofs.Sink.Outcome
import NodeProbe.Rosetta.Query

set_option autoImplicit false

namespace NodeProbe

open Json Rosetta

theorem persist_disk (path : String) (value : Value) (world : World)
    (saved : ((persist path value).run world).1 = .ok ()) :
    world.disk.write path value.pretty = .ok ((persist path value).run world).2.disk := by
  cases written : world.disk.write path value.pretty with
  | error fault =>
    rw [Sink.persist_error path value world fault written] at saved
    cases saved
  | ok after => rw [Sink.persist_ok path value world after written]

theorem fits_prefix (output : Output) (first second : Bytes) (fits : output.fits (first ++ second) = true) :
    output.fits first = true := by
  obtain ⟨printed, room⟩ := output
  cases room with
  | none => rfl
  | some room =>
    have enough : (first ++ second).length ≤ room := of_decide_eq_true fits
    rw [List.length_append] at enough
    exact decide_eq_true (Nat.le_trans (Nat.le_add_right _ _) enough)

namespace Sink

theorem saved_parsed (sink : Sink) (response : Response) (world : World) (value : Value)
    (saved : sink.saved? world response = some value) : Json.parse response.body = .ok value := by
  unfold saved? at saved
  split at saved
  · rename_i own path _ parsed _
    split at saved
    · rw [parsed, Option.some.inj saved]
    · cases saved
  · cases saved

theorem report_rewrites (sink : Sink) (path : String) (named : sink.outputPath = some path) (value : Value)
    (response : Response) (world : World) (parsed : Json.parse response.body = .ok value)
    (rewrites : world.disk.write path value.pretty = .ok world.disk) :
    ((sink.report response).run world).2.disk = world.disk := by
  have left := sink.report_leaves response world
  cases here : sink.saved? world response with
  | none =>
    rw [here] at left
    exact left.disk
  | some own =>
    rw [here] at left
    obtain rfl : own = value := Except.ok.inj ((sink.saved_parsed response world own here).symm.trans parsed)
    obtain ⟨target, same, written, _⟩ := left
    obtain rfl : path = target := Option.some.inj (named.symm.trans same)
    exact (Except.ok.inj (rewrites.symm.trans written)).symm

theorem report_saves_again (sink : Sink) (path : String) (named : sink.outputPath = some path) (value : Value)
    (response : Response) (world : World) (accepted : response.isOk = true)
    (parsed : Json.parse response.body = .ok value) (rewrites : world.disk.write path value.pretty = .ok world.disk)
    (fits : world.output.fits (sink.block world.disk response) = true) :
    ((sink.report response).run world).1 = .ok (.success value) ∧
      ((sink.report response).run world).2.log.countP Event.isSaved = world.log.countP Event.isSaved + 1 := by
  have saves : sink.persists world.disk value = true := by
    rw [persists, named]
    dsimp only
    rw [rewrites]
    rfl
  have whole : sink.block world.disk response = line sink.heading ++ line value.pretty ++ sink.timingBlock response := by
    simp only [block, accepted, if_true, parsed, saves]
  have fitsLines : world.output.fits (line sink.heading ++ line value.pretty) = true := by
    rw [whole] at fits
    exact fits_prefix world.output _ _ fits
  have here : sink.saved? world response = some value := by
    rw [saved?, accepted, parsed, named]
    dsimp only
    rw [if_pos ⟨fitsLines, by rw [rewrites]; rfl⟩]
  have left := sink.report_leaves response world
  rw [here] at left
  obtain ⟨_, _, _, counted⟩ := left
  exact ⟨sink.report_success world accepted parsed saves fits, counted⟩

end Sink

/-- What is shown and saved of a document is read back as that document. -/
theorem written_read_back (value : Value) (canonical : value.Canonical) (exact : value.Exact)
    (shallow : value.depth ≤ 127) :
    (∃ text, value.render = .ok text ∧ Json.parse text = .ok value) ∧
    (∀ request : Request, request.payload = value → Json.parse request.body = .ok value) ∧
    ∀ (path : String) (before : World), ((persist path value).run before).1 = .ok () →
      ∃ text, ((persist path value).run before).2.disk.read? path = some text ∧ Json.parse text = .ok value ∧
        ∀ (sink : Sink) (elapsed : Duration) (world : World), sink.outputPath = some path →
          world.disk = ((persist path value).run before).2.disk →
          ((sink.report ⟨200, text, elapsed⟩).run world).2.disk = world.disk ∧
          (world.output.fits (sink.block world.disk ⟨200, text, elapsed⟩) = true →
            ((sink.report ⟨200, text, elapsed⟩).run world).1 = .ok (.success value) ∧
            ((sink.report ⟨200, text, elapsed⟩).run world).2.log.countP Event.isSaved =
              world.log.countP Event.isSaved + 1) := by
  have parsed := pretty_parse value canonical exact shallow
  refine ⟨⟨value.pretty, render_pretty value, parsed⟩, ?_, ?_⟩
  · rintro request rfl
    exact compact_parse request.payload canonical exact shallow
  · intro path before saved
    have written := persist_disk path value before saved
    refine ⟨value.pretty, Disk.read_write _ _ path _ written, parsed, ?_⟩
    intro sink elapsed world named same
    have rewrites := Disk.write_again _ _ path _ written
    rw [← same] at rewrites
    exact ⟨sink.report_rewrites path named value ⟨200, value.pretty, elapsed⟩ world parsed rewrites,
      sink.report_saves_again path named value ⟨200, value.pretty, elapsed⟩ world rfl parsed rewrites⟩

theorem outermost_integers_read_back :
    let value : Value := .object [("\n\"", .list [.number (.integer ⟨-0x8000000000000000, by decide, by decide⟩),
      .number (.integer ⟨0xFFFFFFFFFFFFFFFF, by decide, by decide⟩)]), ("\\😀", .text "\x00")]
    value.Canonical ∧ value.Exact ∧ value.depth ≤ 127 ∧ ∃ text, value.render = .ok text ∧ Json.parse text = .ok value := by
  intro value
  have ascending : "\n\"" < "\\😀" := by decide
  have canonical : value.Canonical := by
    refine (everywhere_object _ _).mpr ⟨List.pairwise_pair.mpr ascending, ?_⟩
    exact List.forall_mem_cons.mpr ⟨⟨trivial, trivial, trivial, trivial⟩, List.forall_mem_cons.mpr ⟨trivial, nofun⟩⟩
  have exact : value.Exact := ⟨trivial, ⟨trivial, trivial, trivial, trivial⟩, trivial, trivial⟩
  have shallow : value.depth ≤ 127 := by decide
  exact ⟨canonical, exact, shallow, (written_read_back value canonical exact shallow).1⟩

end NodeProbe
