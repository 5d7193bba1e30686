import BlobDepot.Failure.Argument

set_option autoImplicit false

namespace BlobDepot

structure PartPlan where
  partCount : Int
  lastPartSize : Int
  deriving Repr, DecidableEq

namespace PartPlan

def ofSizes (totalSize partSize : Int) : Except ArgumentError PartPlan :=
  if partSize <= 0 then
    .error .partSize
  else if totalSize <= partSize then
    -- An empty total is one part as well.
    .ok ⟨1, totalSize⟩
  else if totalSize % partSize = 0 then
    -- The last part is not shorter than the others.
    .ok ⟨totalSize / partSize, partSize⟩
  else
    .ok ⟨totalSize / partSize + 1, totalSize % partSize⟩

def totalSize (plan : PartPlan) (partSize : Int) : Int :=
  (plan.partCount - 1) * partSize + plan.lastPartSize

def partSizeFor (plan : PartPlan) (partNumber partSize : Int) : Int :=
  if partNumber < plan.partCount then partSize else plan.lastPartSize

end PartPlan

end BlobDepot
