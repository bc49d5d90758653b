import XlaGpu.Shape
import XlaGpu.Hlo
import XlaGpu.Gemm
import XlaGpu.DotShapeInference
import XlaGpu.CustomCall
import XlaGpu.Reduction
import XlaGpu.DeviceCall
import XlaGpu.Shuffle
import XlaGpu.Printf
import XlaGpu.Emission
