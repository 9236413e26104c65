import Mathlib.Data.String.Basic
import PythonForFun.Lib.StableSort

set_option relaxedAutoImplicit false
set_option autoImplicit false

/-!
# The newest machine image

`aws/aws_utils.py` takes the newest image of a response as the last one after sorting by the
creation date; the test in `aws/ec2/ut.py` compares its id with what a `jq` pipeline selects.
Python's `sorted` and `sort_by` are both stable sorts by the order of code points, so both end
in the last image of the response among those with the latest date.

## Main definitions

* `Aws.newestImage`, `Aws.getUbuntuImageId`, `Aws.getLinux2ImageId` — as in the source.
* `Aws.Jq` — a stable `sort_by`, with the pipeline of the test.

## Main results

* `Aws.getLinux2ImageId_newest` — the image chosen, by the expression and by the pipeline.
-/

namespace PythonForFun.Aws

open StableSort

/-- An image of a response: its id and its creation date. -/
structure Image where
  imageId : String
  creationDate : String
  deriving DecidableEq

/-- The filters and the owner of a `describe_images` call. -/
structure ImageQuery where
  name : String
  state : String
  owner : String
  deriving DecidableEq

/-- The query of `get_ubuntu_image_id`. -/
def ubuntuImages : ImageQuery :=
  ⟨"ubuntu/images/hvm-ssd/ubuntu-xenial-16.04-amd64-server-????????", "available", "099720109477"⟩

/-- The query of `get_linux2_image_id`. -/
def linux2Images : ImageQuery := ⟨"amzn2-ami-hvm-2.0.????????-x86_64-gp2", "available", "amazon"⟩

/-- `sorted(images, key=lambda img: img.get('CreationDate'))[-1]`; without images the index is
out of range. -/
def newestImage (images : List Image) : Option Image :=
  (sorted Image.creationDate images).getLast?

/-- `get_ubuntu_image_id()`, where `describeImages` answers the client's call. -/
def getUbuntuImageId (describeImages : ImageQuery → List Image) : Option String :=
  (newestImage (describeImages ubuntuImages)).map Image.imageId

/-- `get_linux2_image_id()`. -/
def getLinux2ImageId (describeImages : ImageQuery → List Image) : Option String :=
  (newestImage (describeImages linux2Images)).map Image.imageId

/-- What `jq` offers: `sort_by(.CreationDate)` is a stable sort. -/
structure Jq where
  sortBy : List Image → List Image
  stable : ∀ images, SortsStably Image.creationDate images (sortBy images)

/-- The image selected by `.Images | sort_by(.CreationDate) | last(.[])`. -/
def Jq.newest (jq : Jq) (images : List Image) : Option Image := (jq.sortBy images).getLast?

/-- The pipeline with `.ImageId`. -/
def Jq.newestId (jq : Jq) (images : List Image) : Option String :=
  (jq.newest images).map Image.imageId

/-- The expression selects the last image of the response among those with the latest date. -/
theorem newestImage_eq_some_iff (images : List Image) (img : Image) :
    newestImage images = some img ↔ LastMax Image.creationDate images img :=
  (sortsStably_sorted Image.creationDate images).getLast?_eq_some_iff

/-- So does the pipeline. -/
theorem Jq.newest_eq_some_iff (jq : Jq) (images : List Image) (img : Image) :
    jq.newest images = some img ↔ LastMax Image.creationDate images img :=
  (jq.stable images).getLast?_eq_some_iff

/-- The pipeline and the expression select the same image, and none of no image. -/
theorem Jq.newest_eq (jq : Jq) (images : List Image) : jq.newest images = newestImage images := by
  ext img
  rw [jq.newest_eq_some_iff, newestImage_eq_some_iff]

/-- A response with an image has a newest one. -/
theorem newestImage_isSome {images : List Image} (h : images ≠ []) :
    ∃ img, newestImage images = some img := by
  have hperm := (sortsStably_sorted Image.creationDate images).perm
  have hne : sorted Image.creationDate images ≠ [] := fun hnil =>
    h (hnil ▸ hperm).symm.eq_nil
  exact ⟨_, List.getLast?_eq_some_getLast hne⟩

/-- The pipeline prints the id `get_ubuntu_image_id` returns. -/
theorem Jq.newestId_ubuntuImages (jq : Jq) (describeImages : ImageQuery → List Image) :
    jq.newestId (describeImages ubuntuImages) = getUbuntuImageId describeImages := by
  rw [Jq.newestId, jq.newest_eq, getUbuntuImageId]

/-- Whenever the response has an image, `get_linux2_image_id` returns the id of the last image
among those with the latest date, and the pipeline selects this very image. -/
theorem getLinux2ImageId_newest (jq : Jq) (describeImages : ImageQuery → List Image)
    (h : describeImages linux2Images ≠ []) :
    ∃ img ∈ describeImages linux2Images,
      newestImage (describeImages linux2Images) = some img ∧
      getLinux2ImageId describeImages = some img.imageId ∧
      (∀ other ∈ describeImages linux2Images, other.creationDate ≤ img.creationDate) ∧
      ((describeImages linux2Images).filter (·.creationDate = img.creationDate)).getLast? =
        some img ∧
      jq.newest (describeImages linux2Images) = some img ∧
      jq.newestId (describeImages linux2Images) = some img.imageId := by
  obtain ⟨img, himg⟩ := newestImage_isSome h
  have hmax := (newestImage_eq_some_iff _ img).mp himg
  have hjq : jq.newest (describeImages linux2Images) = some img := (jq.newest_eq _).trans himg
  refine ⟨img, (List.mem_filter.mp (List.mem_of_getLast? hmax.last)).1, himg, ?_, hmax.max,
    hmax.last, hjq, ?_⟩
  · rw [getLinux2ImageId, himg, Option.map_some]
  · rw [Jq.newestId, hjq, Option.map_some]

/-- Of two images with the later of two dates, listed before and after the older one, the second
is taken. -/
theorem getLinux2ImageId_newest_tie :
    let response : List Image := [⟨"ami-b", "2020-07-24"⟩, ⟨"ami-a", "2020-05-20"⟩,
      ⟨"ami-c", "2020-07-24"⟩]
    let jq : Jq := ⟨sorted Image.creationDate, sortsStably_sorted Image.creationDate⟩
    getLinux2ImageId (fun _ => response) = some "ami-c" ∧
      ∃ img ∈ response, newestImage response = some img ∧
        getLinux2ImageId (fun _ => response) = some img.imageId ∧
        (∀ other ∈ response, other.creationDate ≤ img.creationDate) ∧
        (response.filter (·.creationDate = img.creationDate)).getLast? = some img ∧
        jq.newest response = some img ∧ jq.newestId response = some img.imageId := by
  intro response jq
  exact ⟨by decide, getLinux2ImageId_newest jq (fun _ => response) (by decide)⟩

end PythonForFun.Aws
