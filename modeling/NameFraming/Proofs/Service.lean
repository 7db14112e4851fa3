import NameFraming.Proofs.Corpus.Isolation
import NameFraming.Proofs.Settings.Revalidation
import NameFraming.Proofs.Text.Lowercasing
import NameFraming.Service

/-! Which uploads the service takes for programs. It compares the suffix with the file name in lower
case, where a batch compares it with the name as it is. The two agree on the names that a batch
picks as long as the suffix is in lower case itself; under any other suffix the service takes no
file at all. -/

namespace NameFraming

/-- A request that sends a file to be framed. -/
structure Request.Sends (request : Request) (name : Text) (content : Bytes) : Prop where
  address : request.targetError? = none
  route : Route.find? request.target = some .frame
  method : request.method = Route.frame.method
  upload : request.upload = some { name, content }

namespace Service

variable {service : Service} {request : Request} {name : Text} {content : Bytes}

/-- The answer is that the content is not valid. -/
def Rejects (service : Service) (request : Request) : Prop :=
  ∃ response, service.attempt request = .ok response ∧ response.status = 422

/-- The names that count as those of programs. -/
def Takes (service : Service) (name : Text) : Prop :=
  name ≠ [] ∧ service.settings.corpusSuffix <:+ lower name

/-- The answer to a program. -/
def framed (service : Service) (content : Bytes) : Response :=
  ⟨200, (service.framer.frameProgram service.answer content).toValue,
    service.framer.events (decodeProgram service.answer content).text⟩

theorem frameUpload_of_takes (takes : service.Takes name) :
    service.frameUpload { name, content } = service.framed content := by
  simp only [frameUpload, accepts, List.isSuffixOf_iff_suffix, List.isEmpty_iff, if_neg takes.1,
    if_pos takes.2]
  rfl

theorem status_frameUpload_of_not_takes (refused : ¬ service.Takes name) :
    (service.frameUpload { name, content }).status = 422 := by
  unfold frameUpload
  split
  · split <;> rfl
  · rename_i named
    have other : ¬ service.accepts name = true := fun accepted =>
      refused ⟨by simpa using named, List.isSuffixOf_iff_suffix.mp accepted⟩
    rw [if_neg other]
    rfl

theorem respond_of_sends (sends : request.Sends name content) :
    service.respond request = service.frameUpload { name, content } := by
  simp only [respond, sends.route, sends.method, sends.upload, ne_eq, not_true_eq_false, if_false,
    if_true]

/-- Only about a program does it matter what the detector answers. -/
theorem attempt_of_takes (sends : request.Sends name content) (takes : service.Takes name) :
    service.attempt request =
      (withAnswer service.answer content (service.framed content)).mapError .encoding := by
  have program : service.programIn? request = some content := by
    simpa [programIn?, sends.route, sends.method, sends.upload, accepts, Takes] using takes
  rw [attempt, sends.address, program, respond_of_sends sends, frameUpload_of_takes takes]

theorem attempt_of_not_takes (sends : request.Sends name content) (refused : ¬ service.Takes name) :
    service.attempt request = .ok (service.frameUpload { name, content }) := by
  have noProgram : service.programIn? request = none := by
    simpa [programIn?, sends.route, sends.method, sends.upload, accepts, Takes] using refused
  rw [attempt, sends.address, noProgram, respond_of_sends sends]

theorem rejects_iff_not_takes (sends : request.Sends name content) :
    service.Rejects request ↔ ¬ service.Takes name := by
  constructor
  · rintro ⟨response, answered, invalid⟩ takes
    rw [attempt_of_takes sends takes, withAnswer] at answered
    split at answered
    · cases answered
    · cases answered
      cases invalid
  · intro refused
    exact ⟨_, attempt_of_not_takes sends refused, status_frameUpload_of_not_takes refused⟩

/-- A suffix has a point, so that names which end with it are not empty. -/
theorem takes_iff (accepted : service.settings.Accepted) :
    service.Takes name ↔ service.settings.corpusSuffix <:+ lower name := by
  refine ⟨And.right, fun ends => ⟨?_, ends⟩⟩
  rintro rfl
  obtain ⟨_, passed⟩ := accepted.passed.suffix
  have point := (Settings.checkSuffix_canonical passed).point
  rw [List.suffix_nil.mp ends] at point
  cases point

/-- The service against a batch with the same settings. Of the files in a directory a batch picks
those whose names end with the suffix. The service answers such a name as a program if the suffix is
in lower case, and otherwise it rejects whatever it is sent. -/
theorem rejects_program_iff (service : Service) (accepted : service.settings.Accepted) (name : Text)
    (ends : service.settings.corpusSuffix <:+ name) :
    (∀ disk directory base content, disk.WellFormed →
      Discovered disk directory service.settings.corpusSuffix base →
      disk.node? (base ++ [name]) = some (.file content) →
      ∃ files, discover disk directory service.settings.corpusSuffix = .ok files ∧
        directory.child name ∈ files) ∧
    (∀ request content, request.Sends name content →
      (service.Rejects request ↔
        lower service.settings.corpusSuffix ≠ service.settings.corpusSuffix)) ∧
    (lower service.settings.corpusSuffix = service.settings.corpusSuffix →
      ∀ request content, request.Sends name content →
        service.attempt request =
          (withAnswer service.answer content (service.framed content)).mapError .encoding) ∧
    (lower service.settings.corpusSuffix ≠ service.settings.corpusSuffix →
      ∀ request other content, request.Sends other content → service.Rejects request) := by
  have takes : service.Takes name ↔
      lower service.settings.corpusSuffix = service.settings.corpusSuffix :=
    (takes_iff accepted).trans (isSuffix_lower_iff ends)
  refine ⟨?_, ?_, ?_, ?_⟩
  · intro disk directory base content wellFormed discovered found
    refine ⟨_, discover_eq_ok_iff.mpr
      ⟨base, discovered.located, discovered.isDirectory, rfl⟩, ?_⟩
    exact List.mem_map_of_mem ((mem_programNames_iff wellFormed).mpr ⟨ends, content, found⟩)
  · intro request content sends
    exact (rejects_iff_not_takes sends).trans (not_congr takes)
  · intro lowercase request content sends
    exact attempt_of_takes sends (takes.mpr lowercase)
  · intro notLowercase request other content sends
    refine (rejects_iff_not_takes sends).mpr fun taken => notLowercase ?_
    exact lower_eq_self_of_isSuffix taken.2

/-- Two spellings of one suffix, each with a name that ends with it. A batch finds both files; the
service takes only the one in lower case, whatever the files hold. -/
theorem rejects_program_iff_spellings :
    let capital : Service := ⟨{ corpusSuffix := ".LW".toList }, none⟩
    let small : Service := ⟨{ corpusSuffix := ".lw".toList }, none⟩
    let disk : Disk := { nodes := [(["a.LW".toList], .file []), (["a.lw".toList], .file [])] }
    let here : Path := ⟨[], []⟩
    let post (name : Text) (content : Bytes) : Request :=
      { method := "POST".toList, target := "/frame".toList, upload := some { name, content } }
    (capital.settings.Accepted ∧ small.settings.Accepted) ∧
      (∃ files, discover disk here capital.settings.corpusSuffix = .ok files ∧
        here.child "a.LW".toList ∈ files) ∧
      (∃ files, discover disk here small.settings.corpusSuffix = .ok files ∧
        here.child "a.lw".toList ∈ files) ∧
      ∀ content, capital.Rejects (post "a.LW".toList content) ∧
        ¬ small.Rejects (post "a.lw".toList content) := by
  intro capital small disk here post
  have capitalAccepted : capital.settings.Accepted :=
    ⟨[("corpus_suffix", .text ".LW".toList)], rfl⟩
  have smallAccepted : small.settings.Accepted := ⟨[], rfl⟩
  have wellFormed : disk.WellFormed := by decide
  have sends (name : Text) (content : Bytes) : (post name content).Sends name content :=
    ⟨rfl, rfl, rfl, rfl⟩
  have ofCapital := rejects_program_iff capital capitalAccepted "a.LW".toList (by decide)
  have ofSmall := rejects_program_iff small smallAccepted "a.lw".toList (by decide)
  refine ⟨⟨capitalAccepted, smallAccepted⟩, ?_, ?_, fun content => ⟨?_, ?_⟩⟩
  · exact ofCapital.1 disk here [] [] wellFormed ⟨rfl, rfl, by decide⟩ (by decide)
  · exact ofSmall.1 disk here [] [] wellFormed ⟨rfl, rfl, by decide⟩ (by decide)
  · exact (ofCapital.2.1 _ content (sends _ content)).mpr (by decide +kernel)
  · rw [ofSmall.2.1 _ content (sends _ content)]
    decide +kernel

end Service

end NameFraming
