import VookiViewer.Util.RotatingIndex
import VookiViewer.Qt.Gui

/-!
# ImageLoader

`processing/ImageLoader.cpp`: one reader, the image read last, and the number of the
frame of an animation. The reader is Qt's, so it is a parameter (`QImageReaderOps`).
-/

namespace VookiViewer

structure ImageLoader (S C : Type) where
  animationIndex : RotatingIndex 32
  originalImage : QImage C
  reader : S

namespace ImageLoader

variable {S C : Type} [QImageReaderOps S C]

def maxAllocationImageSize : ℤ := 4096

def new : ImageLoader S C :=
  { animationIndex := { index := 0, maxValuePlus1 := 1, valid := by decide }
    originalImage := Grid.null
    reader := QImageReaderOps.empty }

def imageCount (l : ImageLoader S C) : ℤ := QImageReaderOps.imageCount l.reader

def isAnimated (l : ImageLoader S C) : Bool := l.imageCount != 0

def nextImageDelay (l : ImageLoader S C) : ℤ := QImageReaderOps.nextImageDelay l.reader

/-- The reader after `loadImage` has pointed it at a file. -/
def opened (reader : S) (fileName : String) : S :=
  let reader := QImageReaderOps.setAllocationLimit reader maxAllocationImageSize
  let reader := QImageReaderOps.setFileName reader fileName
  let reader := QImageReaderOps.setQuality reader 100
  QImageReaderOps.setAutoTransform reader true

/-- `loadImage`: the reader and the image are those of the new file before it is known
whether the file can be read. -/
def loadImage (l : ImageLoader S C) (fileName : String) : ImageLoader S C × Bool :=
  let l := { l with reader := opened l.reader fileName, originalImage := Grid.null }
  if QImageReaderOps.canRead l.reader then
    if l.isAnimated then
      ({ l with animationIndex := (l.animationIndex.set 0 (BitVec.ofInt 32 l.imageCount)).2 }, true)
    else (l, true)
  else (l, false)

def getImage (l : ImageLoader S C) : ImageLoader S C × QImage C :=
  let l :=
    if l.originalImage.isNull then
      let r := QImageReaderOps.read l.reader l.originalImage
      { l with reader := r.1, originalImage := r.2 }
    else l
  (l, l.originalImage)

/-- `getNextImage`: the reader starts over when the index comes back to 0. -/
def getNextImage (l : ImageLoader S C) : ImageLoader S C × QImage C :=
  if l.isAnimated then
    let l := { l with animationIndex := l.animationIndex.increment }
    let l :=
      if l.animationIndex.toNat = 0 then
        { l with
          reader := QImageReaderOps.setFileName l.reader (QImageReaderOps.fileName l.reader) }
      else l
    -- jumpToImage takes a signed number
    let reader := QImageReaderOps.jumpToImage l.reader l.animationIndex.index.toInt
    let r := QImageReaderOps.read reader l.originalImage
    ({ l with reader := r.1, originalImage := r.2 }, r.2)
  else l.getImage

end ImageLoader

end VookiViewer
