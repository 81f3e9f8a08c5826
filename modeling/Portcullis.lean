import Portcullis.Bam.Cigar
import Portcullis.Bam.Alignment
import Portcullis.Bam.CigarString
import Portcullis.Filter.Junction
import Portcullis.Filter.ClipMSR
import Portcullis.Filter.ClipBlocks
import Portcullis.Filter.ClipProperties
import Portcullis.Filter.Pipeline
import Portcullis.Filter.Guarantees
import Portcullis.Filter.Int32
import Portcullis.Filter.Run
