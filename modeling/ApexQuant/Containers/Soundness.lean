import ApexQuant.Containers.Policy

namespace ApexQuant
namespace Containers

open Foundation

/-!
# What an accepted document guarantees

A report that is ok should mean that no managed service runs as root, that each runs a
pinned image and that no value under a secret key spells a text.  The checks compare a
user with five texts, take the first colon of an image for that of its tag, and look at
the two ends of a value.  This names the texts that comply with such a check and do not
mean what it stands for, and shows that there are no others.
-/

/-! ## Users -/

/-- Root, under a spelling that the verifier does not know. -/
inductive DisguisedRoot (user : Text) : Prop where
  | unnamed (nobody : beforeColon user = []) : DisguisedRoot user
  | root (gid : Text) (spelled : user = "root".toList ++ ':' :: gid) : DisguisedRoot user
  | zero (gid : Text) (spelled : user = "0".toList ++ ':' :: gid) (otherGroup : gid ≠ "0".toList) : DisguisedRoot user
  | zeros (several : 2 ≤ (beforeColon user).length) (zeros : forall c, c ∈ beforeColon user -> c = '0') :
      DisguisedRoot user

theorem not_nonRoot {user : Text} (disguised : DisguisedRoot user) : ¬NonRoot user := by
  intro nonRoot
  cases disguised with
  | unnamed nobody => exact nonRoot.named nobody
  | root gid spelled =>
      refine nonRoot.notRoot ?_
      rw [spelled, beforeColon_append (by decide)]
  | zero gid spelled _ =>
      rcases nonRoot.notZero with ⟨c, member, other⟩
      rw [spelled, beforeColon_append (by decide)] at member
      exact other (List.mem_singleton.mp member)
  | zeros _ zeros =>
      rcases nonRoot.notZero with ⟨c, member, other⟩
      exact other (zeros c member)

/-- Of the users that are not refused, these alone are root. -/
theorem nonRoot_iff {user : Text} (allowed : user ∉ rootUsers) : NonRoot user <-> ¬DisguisedRoot user := by
  refine ⟨fun nonRoot disguised => not_nonRoot disguised nonRoot, fun open' => ⟨?_, ?_, ?_⟩⟩
  · exact fun nobody => open' (.unnamed nobody)
  · intro uid
    rcases uid_cases user with alone | ⟨gid, spelled⟩
    · rw [uid] at alone
      exact allowed (by rw [alone]; decide)
    · rw [uid] at spelled
      exact open' (.root gid spelled)
  · by_contra none
    have zeros : forall c, c ∈ beforeColon user -> c = '0' := by
      intro c member
      by_contra other
      exact none ⟨c, member, other⟩
    by_cases several : 2 ≤ (beforeColon user).length
    · exact open' (.zeros several zeros)
    · have uid : beforeColon user = "0".toList := by
        cases shape : beforeColon user with
        | nil => exact absurd (.unnamed shape) open'
        | cons first rest =>
            rw [shape] at several zeros
            rw [List.length_cons, not_le] at several
            have short : rest = [] := List.eq_nil_of_length_eq_zero (by omega)
            rw [zeros first List.mem_cons_self, short]
            rfl
      rcases uid_cases user with alone | ⟨gid, spelled⟩
      · rw [uid] at alone
        exact allowed (by rw [alone]; decide)
      · rw [uid] at spelled
        refine open' (.zero gid spelled ?_)
        rintro rfl
        exact allowed (by rw [spelled]; decide)

/-! ## Images -/

/-- The colon, or the mark of a digest, is not what the verifier takes it for, and
nothing else pins the image. -/
structure Misread (image : Text) : Prop where
  more : '@' ∈ image ∨ '/' ∈ behindColon image
  undigested : digestPinned image = false
  untagged : forall version, tag image = some version -> Text.strip version = [] ∨ version = latest

/-- Of the images that are not refused, these alone are not pinned. -/
theorem pinned_iff {image : Text} (compliant : CompliantImage image) : Pinned image <-> ¬Misread image := by
  constructor
  · rintro (digest | ⟨version, tagged, nonempty, fixed⟩) misread
    · exact Bool.false_ne_true (misread.undigested.symm.trans digest)
    · exact (misread.untagged version tagged).elim nonempty fixed
  · intro read
    by_contra unpinned
    rcases not_or.mp unpinned with ⟨undigested, unversioned⟩
    have untagged : forall version, tag image = some version -> Text.strip version = [] ∨ version = latest := by
      intro version tagged
      by_contra fixed
      rcases not_or.mp fixed with ⟨nonempty, other⟩
      exact unversioned ⟨version, tagged, nonempty, other⟩
    have plain : ¬('@' ∈ image ∨ '/' ∈ behindColon image) := fun more =>
      read ⟨more, Bool.eq_false_of_not_eq_true undigested, untagged⟩
    rcases not_or.mp plain with ⟨unsigned, unslashed⟩
    have unmarked : ¬digestMark <:+: image := fun marked =>
      unsigned (marked.subset (by decide))
    rcases compliant.marked unmarked with ⟨colon, nonempty, other⟩
    exact (untagged _ (tag_of_plain unsigned colon unslashed)).elim nonempty other

/-! ## Values -/

theorem interpolated_iff {value : Text} : interpolated value <-> Exists fun body => value = enclosed body := by
  constructor
  · rintro ⟨⟨rest, opening⟩, ⟨initial, closing⟩⟩
    rcases List.eq_nil_or_concat' rest with rfl | ⟨body, last, rfl⟩
    · have ends := congrArg List.getLast? (opening.trans closing.symm)
      rw [List.append_nil, List.getLast?_append_of_ne_nil _ (by decide)] at ends
      exact absurd ends (by decide)
    · refine ⟨body, ?_⟩
      rw [← List.append_assoc] at opening
      have final : last = '\x7d' := List.singleton_inj.mp (List.append_inj' (opening.trans closing.symm) rfl).2
      rw [← opening, final]
      rfl
  · rintro ⟨body, rfl⟩
    exact ⟨⟨body ++ ['\x7d'], rfl⟩, ⟨'$' :: '\x7b' :: body, rfl⟩⟩

/-! ## Services and documents -/

section Casing

variable (lowercasing : Text.Lowercasing) (uppercasing : Text.Uppercasing)

structure Sound (service : ComposeService) : Prop where
  user : Exists fun user => service.user = some user ∧ NonRoot (normalizedUser lowercasing user)
  image : Exists fun image => service.image = some image ∧ Pinned image
  secrets : forall key value, (key, value) ∈ service.environment.rows -> secretKey lowercasing key -> value ≠ [] ->
    Reference value

/-- One of the texts of the service complies with its check and does not mean what the
check stands for. -/
inductive Exposed (service : ComposeService) : Prop where
  | user (disguised : DisguisedRoot (normalizedUser lowercasing (service.user.getD []))) : Exposed service
  | image (misread : Misread (service.image.getD [])) : Exposed service
  | secret (key body : Text) (listed : (key, enclosed body) ∈ service.environment.rows)
      (secret : secretKey lowercasing key) (literal : Literal body) : Exposed service

theorem exists_of_getD_ne_nil {field : Option Text} (nonempty : field.getD [] ≠ []) :
    field = some (field.getD []) := by
  cases field with
  | none => exact absurd rfl nonempty
  | some text => rfl

theorem sound_iff {service : ComposeService} (compliant : Compliant lowercasing uppercasing service) :
    Sound lowercasing service <-> ¬Exposed lowercasing service := by
  constructor
  · rintro sound (disguised | misread | ⟨key, body, listed, secret, literal⟩)
    · rcases sound.user with ⟨user, given, nonRoot⟩
      rw [given] at disguised
      exact not_nonRoot disguised nonRoot
    · rcases sound.image with ⟨image, given, pinned⟩
      have rules := compliant.image
      rw [given] at misread rules
      exact (pinned_iff rules).mp pinned misread
    · exact (sound.secrets key _ listed secret (List.cons_ne_nil _ _)).not_literal rfl literal
  · intro covered
    refine ⟨⟨_, exists_of_getD_ne_nil compliant.user, ?_⟩, ⟨_, exists_of_getD_ne_nil compliant.image.nonempty, ?_⟩, ?_⟩
    · exact (nonRoot_iff compliant.notRoot).mpr fun disguised => covered (.user disguised)
    · exact (pinned_iff compliant.image).mpr fun misread => covered (.image misread)
    · intro key value listed secret nonempty
      rcases interpolated_iff.mp (compliant.secrets key value listed secret nonempty) with ⟨body, rfl⟩
      exact reference_enclosed_iff.mpr fun literal => covered (.secret key body listed secret literal)

/-- An ok is worth what it says exactly for the documents that some rule refuses and for
those in which no managed service has one of the texts above. -/
theorem policy_sound_iff (document : ComposeDocument) (strictWarnings : Bool) :
    ((verifyDocument lowercasing uppercasing document strictWarnings).ok = true ->
      forall service, Managed document service -> Sound lowercasing service) <->
    ((Exists fun service => Managed document service ∧ ¬Compliant lowercasing uppercasing service) ∨
      forall service, Managed document service -> ¬Exposed lowercasing service) := by
  rw [verifyDocument_ok_iff]
  constructor
  · intro guaranteed
    by_cases accepted : forall service, Managed document service -> Compliant lowercasing uppercasing service
    · exact Or.inr fun service managed =>
        (sound_iff lowercasing uppercasing (accepted service managed)).mp (guaranteed accepted service managed)
    · simp only [not_forall] at accepted
      rcases accepted with ⟨service, managed, refused⟩
      exact Or.inl ⟨service, managed, refused⟩
  · rintro (⟨refused, managed, breaks⟩ | covered) accepted service managed'
    · exact absurd (accepted refused managed) breaks
    · exact (sound_iff lowercasing uppercasing (accepted service managed')).mpr (covered service managed')

end Casing

/-- It runs as uid 0, from an image without a tag, with a literal secret. -/
def disguisedService : ComposeService where
  name := "app".toList
  image := some "registry:5000/app".toList
  user := some "0:1000".toList
  readOnly := true
  privileged := false
  securityOpt := ["no-new-privileges:true".toList]
  capDrop := ["ALL".toList]
  healthcheck := some { test := .line "true".toList }
  environment := { rows := [("API_TOKEN".toList, "$\x7bA:-hunter2\x7d".toList)], unique := by decide }
  networks := {"platform".toList}
  labels :=
    { rows := (managedLabel, "true".toList) :: requiredLabels.map fun label => (label, "x".toList)
      unique := by decide }
  deploy := some
    { rows := [("resources".toList, .object [("limits".toList,
        .object [("memory".toList, .string "1G".toList), ("cpus".toList, .string "1".toList)])])]
      unique := by decide }

def disguisedDocument : ComposeDocument where
  services := { rows := [("app".toList, disguisedService)], unique := by decide }

theorem disguised_root_passes :
    ¬((verifyDocument Text.asciiLowercasing Text.asciiUppercasing disguisedDocument true).ok = true ->
      forall service, Managed disguisedDocument service -> Sound Text.asciiLowercasing service) := by
  intro guaranteed
  have accepted : (verifyDocument Text.asciiLowercasing Text.asciiUppercasing disguisedDocument true).ok = true := by
    decide +kernel
  have managed : Managed disguisedDocument disguisedService := ⟨⟨_, List.mem_cons_self⟩, by decide +kernel⟩
  rcases (guaranteed accepted disguisedService managed).user with ⟨user, given, nonRoot⟩
  cases given
  have uid : beforeColon (normalizedUser Text.asciiLowercasing "0:1000".toList) = "0".toList := by decide
  rcases nonRoot.notZero with ⟨c, member, other⟩
  rw [uid] at member
  exact other (List.mem_singleton.mp member)

end Containers
end ApexQuant
